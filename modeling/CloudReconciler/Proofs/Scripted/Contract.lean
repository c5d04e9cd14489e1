import CloudReconciler.Proofs.Reconcile.Run
import CloudReconciler.Scripted.World

/-! # The contract kept — scripted worlds as surroundings

    A store in memory answers as the contract of the store says, with an
    object that nobody edits while the engine runs.  So whatever is run in
    a scripted world is a run under the contract, and what is claimed of
    all runs holds of it. -/

namespace CloudReconciler

variable {Spec St : Type} {k : Circumstances}

namespace MemoryStore

/-- The slot of one object in a store that nobody else writes to. -/
def slot (s : MemoryStore Spec St) (key : ObjectKey) : Slot (Resource Spec St) :=
  ⟨s.objects.find? key, false⟩

/-- The faults that the store has been armed with may be reported, and so may a missing object. -/
structure Admits (k : Circumstances) (s : MemoryStore Spec St) : Prop where
  get : ∀ f, s.failGet = some f → k.storeFault f
  update : ∀ f, s.failUpdate = some f → k.storeFault f
  status : ∀ f, s.failStatus = some f → k.storeFault f
  missing : ∀ name, k.storeFault (.notFound name)

/-- Reading leaves every object as it is. -/
theorem slot_get (s : MemoryStore Spec St) (key asked : ObjectKey) :
    (s.get asked).2.slot key = s.slot key := by
  rw [get]
  cases s.failGet with
  | some f => rfl
  | none => rfl

theorem read (s : MemoryStore Spec St) (hs : s.Admits k) (key asked : ObjectKey) :
    Slot.Read k key asked (s.slot key) (s.get asked).1 ((s.get asked).2.slot key) ∧
      (s.get asked).2.Admits k := by
  rw [get]
  cases hf : s.failGet with
  | some f => exact ⟨.refused (hs.get f hf), ⟨nofun, hs.update, hs.status, hs.missing⟩⟩
  | none =>
      refine ⟨?_, hs⟩
      by_cases hasked : asked = key
      · subst hasked
        exact .found rfl
      · exact .elsewhere hasked

theorem replaced (s : MemoryStore Spec St) (hs : s.Admits k) (key : ObjectKey)
    (o : Resource Spec St) :
    Slot.Replaced k key o (s.slot key) (s.update o).1 ((s.update o).2.slot key) ∧
      (s.update o).2.Admits k := by
  rw [update]
  cases hf : s.failUpdate with
  | some f => exact ⟨.refused (hs.update f hf), ⟨hs.get, nofun, hs.status, hs.missing⟩⟩
  | none =>
      cases hfound : s.objects.find? o.key with
      | none => exact ⟨.refused (hs.missing _), hs⟩
      | some cur =>
          refine ⟨?_, ⟨hs.get, hs.update, hs.status, hs.missing⟩⟩
          by_cases hkey : o.key = key
          · have hslot : s.slot key = ⟨some cur, false⟩ := by
              rw [slot, ← hkey, hfound]
            have hafter : ((s.put o).objects.find? key) = some o := by
              rw [put, Table.find?_insert, if_pos hkey.symm]
            rw [hslot]
            show Slot.Replaced k key o _ (.ok o) ⟨(s.put o).objects.find? key, false⟩
            rw [hafter]
            exact .stored hkey ⟨rfl, rfl, rfl, rfl, rfl⟩ (.inr rfl)
          · have hafter : ((s.put o).objects.find? key) = s.objects.find? key := by
              rw [put, Table.find?_insert, if_neg fun h => hkey h.symm]
            show Slot.Replaced k key o (s.slot key) (.ok o) ⟨(s.put o).objects.find? key, false⟩
            rw [hafter]
            exact .elsewhere hkey

theorem statusWritten [Managed Spec St] (s : MemoryStore Spec St) (hs : s.Admits k)
    (key : ObjectKey) (o : Resource Spec St) :
    Slot.StatusWritten k key o (s.slot key) (s.updateStatus o).1
        ((s.updateStatus o).2.slot key) ∧ (s.updateStatus o).2.Admits k := by
  rw [updateStatus]
  cases hf : s.failStatus with
  | some f => exact ⟨.refused (hs.status f hf), ⟨hs.get, hs.update, nofun, hs.missing⟩⟩
  | none =>
      cases hfound : s.objects.find? o.key with
      | none => exact ⟨.refused (hs.missing _), hs⟩
      | some cur =>
          refine ⟨?_, ⟨hs.get, hs.update, nofun, hs.missing⟩⟩
          by_cases hkey : o.key = key
          · have hslot : s.slot key = ⟨some cur, false⟩ := by
              rw [slot, ← hkey, hfound]
            rw [hslot]
            show Slot.StatusWritten k key o _ (.ok { cur with status := o.status })
              ⟨(s.objects.insert o.key { cur with status := o.status }).find? key, false⟩
            rw [Table.find?_insert, if_pos hkey.symm]
            exact .stored hkey ⟨rfl, rfl, rfl, rfl, rfl⟩ rfl
          · show Slot.StatusWritten k key o (s.slot key) (.ok { cur with status := o.status })
              ⟨(s.objects.insert o.key { cur with status := o.status }).find? key, false⟩
            rw [Table.find?_insert, if_neg fun h => hkey h.symm]
            exact .elsewhere hkey

end MemoryStore

namespace Scripted

/-- The place of a store in a world: what is put there is found there, and only readings of
    projects touch it from elsewhere. -/
structure Shelf.IsLawful (shelf : Shelf Spec St) : Prop where
  store_withStore : ∀ w s, shelf.store (shelf.withStore w s) = s
  store_eq : ∀ w transport asked desk,
    shelf.store { w with transport, asked, desk } = shelf.store w
  store_getProject : ∀ w key, shelf.store { w with projects := (w.projects.get key).2 } =
    shelf.store w ∨ shelf.store { w with projects := (w.projects.get key).2 } =
      ((shelf.store w).get key).2

theorem projectShelf_isLawful : projectShelf.IsLawful :=
  ⟨fun _ _ => rfl, fun _ _ _ _ => rfl, fun _ _ => .inr rfl⟩

theorem volumeShelf_isLawful : volumeShelf.IsLawful :=
  ⟨fun _ _ => rfl, fun _ _ _ _ => rfl, fun _ _ => .inl rfl⟩

variable [Managed Spec St] {shelf : Shelf Spec St} {key : ObjectKey}

/-- The slot of one object in a world. -/
def World.slot (shelf : Shelf Spec St) (key : ObjectKey) (w : World) : Slot (Resource Spec St) :=
  (shelf.store w).slot key

/-- A world answers as the contract says. -/
theorem World.answers (hshelf : shelf.IsLawful) (c : EngineCall (Resource Spec St)) (w : World)
    (hw : (shelf.store w).Admits k) :
    (Slot.surroundings k key).Answers c (w.slot shelf key) (w.answer shelf c).1
        ((w.answer shelf c).2.slot shelf key) ∧ (shelf.store (w.answer shelf c).2).Admits k := by
  cases c with
  | now => exact ⟨rfl, hw⟩
  | authenticate tenant =>
      have hstore : shelf.store (w.authenticate tenant).2 = shelf.store w := by
        rw [World.authenticate]
        split
        · exact hshelf.store_eq w w.transport _ w.desk
        · exact hshelf.store_eq w w.transport w.asked _
      show (w.authenticate tenant).2.slot shelf key = w.slot shelf key ∧
        (shelf.store (w.authenticate tenant).2).Admits k
      rw [World.slot, World.slot, hstore]
      exact ⟨rfl, hw⟩
  | fetch namespace_ name =>
      have hread := (shelf.store w).read hw key (namespace_, name)
      show Slot.Read k key (namespace_, name) (w.slot shelf key)
          ((shelf.store w).get (namespace_, name)).1
          ((shelf.store (shelf.withStore w ((shelf.store w).get (namespace_, name)).2)).slot key) ∧
        (shelf.store (shelf.withStore w ((shelf.store w).get (namespace_, name)).2)).Admits k
      rw [hshelf.store_withStore]
      exact hread
  | fetchProject namespace_ name =>
      show (shelf.store { w with projects := (w.projects.get (namespace_, name)).2 }).slot key =
          (shelf.store w).slot key ∧
        (shelf.store { w with projects := (w.projects.get (namespace_, name)).2 }).Admits k
      rcases hshelf.store_getProject w (namespace_, name) with hstore | hstore
      · rw [hstore]
        exact ⟨rfl, hw⟩
      · rw [hstore]
        exact ⟨(shelf.store w).slot_get _ _, ((shelf.store w).read hw key _).2⟩
  | update o =>
      have hreplaced := (shelf.store w).replaced hw key o
      show Slot.Replaced k key o (w.slot shelf key) ((shelf.store w).update o).1
          ((shelf.store (shelf.withStore w ((shelf.store w).update o).2)).slot key) ∧
        (shelf.store (shelf.withStore w ((shelf.store w).update o).2)).Admits k
      rw [hshelf.store_withStore]
      exact hreplaced
  | updateStatus o =>
      have hwritten := (shelf.store w).statusWritten hw key o
      show Slot.StatusWritten k key o (w.slot shelf key) ((shelf.store w).updateStatus o).1
          ((shelf.store (shelf.withStore w ((shelf.store w).updateStatus o).2)).slot key) ∧
        (shelf.store (shelf.withStore w ((shelf.store w).updateStatus o).2)).Admits k
      rw [hshelf.store_withStore]
      exact hwritten
  | remote c =>
      have hstore : shelf.store (World.answer shelf (.remote c) w).2 = shelf.store w :=
        hshelf.store_eq w _ w.asked _
      show (World.answer shelf (.remote c) w).2.slot shelf key = w.slot shelf key ∧ _
      rw [World.slot, World.slot, hstore]
      exact ⟨rfl, hw⟩

/-- Whatever is run in a world is run under the contract. -/
theorem World.trace_run {α : Type} (hshelf : shelf.IsLawful) (p : Engine (Resource Spec St) α)
    {w : World} (hw : (shelf.store w).Admits k) :
    Procedure.Trace (Slot.surroundings k key) p (w.slot shelf key)
        (p.answered (answer shelf) (slot shelf key) w) (w.run shelf p).1
        ((w.run shelf p).2.slot shelf key) ∧ (shelf.store (w.run shelf p).2).Admits k :=
  Procedure.trace_run (fun _ => Or.inl rfl) (fun c w hw => answers hshelf c w hw) p hw

/-! ## Runs in a world -/

/-- The world after one reconciliation of the object of the key. -/
def World.reconciled (shelf : Shelf Spec St) (s : Setting (Resource Spec St)) (key : ObjectKey)
    (w : World) : World := (w.run shelf (s.reconcile key.1 key.2)).2

/-- One reconciliation of the object of the key. -/
def World.invocation (shelf : Shelf Spec St) (s : Setting (Resource Spec St)) (key : ObjectKey)
    (w : World) : Invocation (Resource Spec St) where
  before := (w.slot shelf key).stored
  answers := (s.reconcile key.1 key.2).answered (answer shelf) (slot shelf key) w
  result := (w.run shelf (s.reconcile key.1 key.2)).1
  after := ((w.reconciled shelf s key).slot shelf key).stored

/-- The world after a number of reconciliations, with their history. -/
def World.reconciledTimes (shelf : Shelf Spec St) (s : Setting (Resource Spec St))
    (key : ObjectKey) (w : World) : Nat → List (Invocation (Resource Spec St)) × World
  | 0 => ([], w)
  | n + 1 =>
      let past := reconciledTimes shelf s key w n
      (past.2.invocation shelf s key :: past.1, past.2.reconciled shelf s key)

/-- Reconciling in a world goes on with a run. -/
theorem World.runs (hshelf : shelf.IsLawful) {s : Setting (Resource Spec St)}
    {start : Resource Spec St} {h : List (Invocation (Resource Spec St))} {w : World}
    (hr : Runs s k start h (w.slot shelf start.key).stored) (hw : (shelf.store w).Admits k)
    (n : Nat) :
    Runs s k start ((w.reconciledTimes shelf s start.key n).1 ++ h)
        ((w.reconciledTimes shelf s start.key n).2.slot shelf start.key).stored ∧
      (shelf.store (w.reconciledTimes shelf s start.key n).2).Admits k := by
  induction n with
  | zero => exact ⟨hr, hw⟩
  | succ n ih =>
      obtain ⟨ht, hadmits⟩ := World.trace_run hshelf
        (s.reconcile start.key.1 start.key.2) ih.2
      exact ⟨.invoked ih.1 ht, hadmits⟩

/-- The world after somebody has edited the object of the key. -/
def World.edited (shelf : Shelf Spec St) (key : ObjectKey)
    (edit : Resource Spec St → Resource Spec St) (w : World) : World :=
  match (shelf.store w).objects.find? key with
  | none => w
  | some o =>
      shelf.withStore w
        { shelf.store w with objects := (shelf.store w).objects.insert key (edit o) }

/-- An edit in a world goes on with a run. -/
theorem World.runs_edited (hshelf : shelf.IsLawful) {s : Setting (Resource Spec St)}
    {start : Resource Spec St} {h : List (Invocation (Resource Spec St))} {w : World}
    {edit : Resource Spec St → Resource Spec St}
    (hr : Runs s k start h (w.slot shelf start.key).stored) (hw : (shelf.store w).Admits k)
    (hedit : ∀ o, (w.slot shelf start.key).stored = some o → o.Edited (edit o)) :
    Runs s k start h ((w.edited shelf start.key edit).slot shelf start.key).stored ∧
      (shelf.store (w.edited shelf start.key edit)).Admits k := by
  rw [World.edited]
  cases hfound : (shelf.store w).objects.find? start.key with
  | none => exact ⟨hr, hw⟩
  | some o =>
      have hstored : (w.slot shelf start.key).stored = some o := hfound
      rw [hstored] at hr
      rw [World.slot, hshelf.store_withStore, MemoryStore.slot]
      refine ⟨?_, hw.get, hw.update, hw.status, hw.missing⟩
      show Runs s k start h (((shelf.store w).objects.insert start.key (edit o)).find? start.key)
      rw [Table.find?_insert, if_pos rfl]
      exact .edited hr (hedit o hstored)

/-- The history and the last world where the object of the key is reconciled a number of times,
    edited, and reconciled again. -/
def World.story (shelf : Shelf Spec St) (s : Setting (Resource Spec St)) (key : ObjectKey)
    (w : World) (n : Nat) (edit : Resource Spec St → Resource Spec St) (m : Nat) :
    List (Invocation (Resource Spec St)) × World :=
  let past := w.reconciledTimes shelf s key n
  let rest := (past.2.edited shelf key edit).reconciledTimes shelf s key m
  (rest.1 ++ past.1, rest.2)

/-- A story is a run from the object that is in the store. -/
theorem World.runs_story (hshelf : shelf.IsLawful) {s : Setting (Resource Spec St)}
    {start : Resource Spec St} {w : World} (hstored : (w.slot shelf start.key).stored = some start)
    (hw : (shelf.store w).Admits k) (n m : Nat) {edit : Resource Spec St → Resource Spec St}
    (hedit : ∀ o, ((w.reconciledTimes shelf s start.key n).2.slot shelf start.key).stored = some o →
      o.Edited (edit o)) :
    Runs s k start (w.story shelf s start.key n edit m).1
      ((w.story shelf s start.key n edit m).2.slot shelf start.key).stored := by
  have hnew : Runs s k start [] (w.slot shelf start.key).stored := by
    rw [hstored]
    exact .start
  obtain ⟨hpast, hadmits⟩ := World.runs hshelf hnew hw n
  rw [List.append_nil] at hpast
  obtain ⟨hedited, hadmits⟩ := World.runs_edited hshelf hpast hadmits hedit
  exact (World.runs hshelf hedited hadmits m).1

/-- So is a story in which the object gets another spec with a greater generation. -/
theorem World.runs_story_respecified (hshelf : shelf.IsLawful) {s : Setting (Resource Spec St)}
    {start : Resource Spec St} {w : World} (hstored : (w.slot shelf start.key).stored = some start)
    (hw : (shelf.store w).Admits k) (n m : Nat) (spec : Spec) (old : Int64) {generation : Int64}
    (hold : ((w.reconciledTimes shelf s start.key n).2.slot shelf start.key).stored.map
      (·.metadata.generation) = some (some old)) (hlt : old < generation) :
    Runs s k start (w.story shelf s start.key n (·.respecified spec generation) m).1
      ((w.story shelf s start.key n (·.respecified spec generation) m).2.slot
        shelf start.key).stored := by
  refine World.runs_story hshelf hstored hw n m fun o ho => o.edited_respecified spec ?_
  intro g hg
  rw [ho, Option.map_some, hg] at hold
  cases hold
  exact hlt

/-! ## A project and a volume -/

/-- A cluster in which nobody edits objects while they are reconciled. -/
def calm : Circumstances := ⟨fun f => f.problem? = none, False⟩

/-- A world in which everybody gets a token. -/
def worldOf (projects : List Project) (volumes : List Volume)
    (script : List (Line CloudReconciler.Reply)) : World where
  projects := projects.foldl .put {}
  volumes := volumes.foldl .put {}
  transport := { script }
  fixedToken := some (.ok "token")
  desk := { now := ⟨0, 0⟩ }

/-- The setting of projects with a gateway. -/
def projectSetting : Setting Project :=
  ⟨projectLifecycle, .ofUrl "https://api.cloud", .default, false⟩

/-- The setting of volumes with a gateway. -/
def volumeSetting : Setting Volume :=
  ⟨volumeLifecycle, .ofUrl "https://api.cloud", .default, false⟩

/-- A project as a user has just applied it. -/
def newProject : Project where
  metadata := { name := some "shop", generation := some 1 }
  spec := { tenant := "acme", tags := ["retail"] }

/-- The project after it has been created remotely. -/
def oldProject : Project :=
  { newProject with status := some { phase := .created, resourceId := some "p1" } }

/-- A volume as a user has just applied it. -/
def newVolume : Volume where
  metadata := { name := some "disk", generation := some 1 }
  spec :=
    { tenant := "acme", location := ⟨"eu"⟩, sizeGb := 10, billingPeriod := "Hour",
      dataCenter := "eu-1", project := ⟨"shop", none⟩ }

/-- The reply to the creation of the project. -/
def projectCreated : CloudReconciler.Reply :=
  ⟨201, Reply.compact (RemoteProject.toJson ⟨⟨"p1", "shop"⟩, {}⟩)⟩

/-- A reply that reports the state of the volume. -/
def volumeReported (status : UInt16) (state : String) : CloudReconciler.Reply :=
  ⟨status, Reply.compact (RemoteVolume.toJson ⟨⟨"v1", "disk"⟩, some state⟩)⟩

/-- The world of the new project, with the replies of the remote API. -/
def projectWorld (script : List (Line CloudReconciler.Reply)) : World :=
  worldOf [newProject] [] script

/-- The world of the new volume, whose project has been created. -/
def volumeWorld (script : List (Line CloudReconciler.Reply)) : World :=
  worldOf [oldProject] [newVolume] script

theorem admits_projectWorld (script : List (Line CloudReconciler.Reply)) :
    (projectShelf.store (projectWorld script)).Admits calm :=
  ⟨nofun, nofun, nofun, fun _ => rfl⟩

theorem admits_volumeWorld (script : List (Line CloudReconciler.Reply)) :
    (volumeShelf.store (volumeWorld script)).Admits calm :=
  ⟨nofun, nofun, nofun, fun _ => rfl⟩

/-- The project is created, marked for deletion and removed. -/
def projectStory : List (Invocation Project) × World :=
  (projectWorld [.reply projectCreated, .reply ⟨204, []⟩]).story projectShelf projectSetting
    newProject.key 2 (·.markedAt ⟨0, 0⟩) 2

/-- The volume is created in the background, marked for deletion and removed. -/
def volumeStory : List (Invocation Volume) × World :=
  (volumeWorld [.reply (volumeReported 201 "InCreation"), .reply (volumeReported 200 "Available"),
    .reply ⟨204, []⟩]).story volumeShelf volumeSetting newVolume.key 3 (·.markedAt ⟨0, 0⟩) 2

theorem runs_projectStory : Runs projectSetting calm newProject projectStory.1
    (projectStory.2.slot projectShelf newProject.key).stored :=
  World.runs_story projectShelf_isLawful rfl (admits_projectWorld _) 2 2 fun o _ =>
    o.edited_markedAt _

theorem runs_volumeStory : Runs volumeSetting calm newVolume volumeStory.1
    (volumeStory.2.slot volumeShelf newVolume.key).stored :=
  World.runs_story volumeShelf_isLawful rfl (admits_volumeWorld _) 3 2 fun o _ =>
    o.edited_markedAt _

/-- The phases that an object was left in by the invocations of a history, oldest first. -/
def phasesOf (h : List (Invocation (Resource Spec St))) : List (Option Phase) :=
  (h.map fun i => i.after.map Resource.phase).reverse

theorem phasesOf_projectStory : phasesOf projectStory.1 =
    [some .creating, some .created, some .deleting, some .deleting] := by
  decide +kernel

theorem phasesOf_volumeStory : phasesOf volumeStory.1 =
    [some .creating, some .provisioning, some .created, some .deleting, some .deleting] := by
  decide +kernel

end Scripted

end CloudReconciler
