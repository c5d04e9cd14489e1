import CloudReconciler.Json.Reader
import CloudReconciler.Proofs.Json.Scan

/-! # Syntax trees — the reader reads exactly the documents

    A tree says how a document is written, down to the strings and numbers
    that mean nothing.  Its tokens and its value are functions of it, so
    the grammar is the image of `Tree.tokens`.

    The reader keeps the open arrays and objects on a stack.  `Awaits` says
    which tokens lead to a stack that waits for a value; what a whole tree
    does to such a stack is `Build.deliver`. -/

namespace CloudReconciler.Json

/-- A document as it is written. -/
inductive Tree where
  | null
  | bool (b : Bool)
  | number (n : Option Number)
  | text (s : Option String)
  | array (items : List Tree)
  | object (members : List (Option String × Tree))

namespace Tree

/-! ## Tokens and values -/

mutual

/-- The tokens of a tree. -/
def tokens : Tree → List Token
  | .null => [.null]
  | .bool b => [.bool b]
  | .number n => [.number n]
  | .text s => [.text s]
  | .array [] => [.openArray, .closeArray]
  | .array (item :: rest) => .openArray :: (tokens item ++ (itemTokens rest ++ [.closeArray]))
  | .object [] => [.openObject, .closeObject]
  | .object ((name, value) :: rest) =>
      .openObject :: .text name :: .colon ::
        (tokens value ++ (memberTokens rest ++ [.closeObject]))

/-- Further items, each behind a comma. -/
def itemTokens : List Tree → List Token
  | [] => []
  | item :: rest => .comma :: (tokens item ++ itemTokens rest)

/-- Further members, each behind a comma. -/
def memberTokens : List (Option String × Tree) → List Token
  | [] => []
  | (name, value) :: rest =>
      .comma :: .text name :: .colon :: (tokens value ++ memberTokens rest)

end

/-- All names mean something. -/
def namesReadable (members : List (Option String × Tree)) : Bool :=
  members.all fun (name, _) => name.isSome

mutual

/-- The document that a tree means; an object with a name that means nothing is unreadable. -/
def value : Tree → Json
  | .null => .null
  | .bool b => .bool b
  | .number none => .unreadable
  | .number (some n) => .number n
  | .text none => .unreadable
  | .text (some s) => .string s
  | .array items => .array (itemValues items)
  | .object members =>
      if namesReadable members then .object (memberValues members) else .unreadable

def itemValues : List Tree → List Json
  | [] => []
  | item :: rest => value item :: itemValues rest

/-- The members whose names mean something. -/
def memberValues : List (Option String × Tree) → List (String × Json)
  | [] => []
  | (none, _) :: rest => memberValues rest
  | (some name, item) :: rest => (name, value item) :: memberValues rest

end

end Tree

/-! ## Trees are read -/

namespace Build

variable {frames : List Frame} {r : Json} {e : Expect} {t : Token} {ts rest : List Token}
  {b next : Build}

theorem run_cons (b : Build) (t : Token) (ts : List Token) :
    b.run (t :: ts) = (b.step t).bind (·.run ts) := by
  rw [run]
  cases b.step t with
  | none => rfl
  | some next => rfl

/-- A value may come next. -/
def TakesValue (e : Expect) : Prop := e = .value ∨ e = .valueOrClose

theorem step_start (he : TakesValue e) (ht : t ≠ .closeArray) :
    Build.step ⟨frames, r, e⟩ t = startValue frames t := by
  rcases he with rfl | rfl
  · rfl
  · exact if_neg ht

/-- A token that is a value of its own. -/
theorem run_single {j : Json} (he : TakesValue e) (ht : t ≠ .closeArray)
    (hstart : startValue frames t = deliver frames j) :
    Build.run ⟨frames, r, e⟩ ([t] ++ rest) = (deliver frames j).bind (·.run rest) := by
  rw [List.singleton_append, run_cons, step_start he ht, hstart]

/-- A token behind which the reader stands as before a value. -/
theorem run_step (h : b.step t = some next) : b.run (t :: ts) = next.run ts := by
  rw [run_cons, h]
  rfl

end Build

namespace Tree

open Build

theorem value_object (members : List (Option String × Tree)) :
    value (.object members) = closed (memberValues members).reverse (namesReadable members) := by
  rw [value, closed, List.reverse_reverse]

mutual

/-- A tree is read and handed to the innermost array or object that is open. -/
theorem run_tokens (tree : Tree) (frames : List Frame) (r : Json) {e : Expect}
    (he : TakesValue e) (rest : List Token) :
    Build.run ⟨frames, r, e⟩ (tree.tokens ++ rest) =
      (deliver frames tree.value).bind (·.run rest) := by
  cases tree with
  | null => exact run_single he (by decide) rfl
  | bool b => exact run_single he nofun rfl
  | number n =>
      cases n with
      | none => exact run_single he nofun rfl
      | some n => exact run_single he nofun rfl
  | text s =>
      cases s with
      | none => exact run_single he nofun rfl
      | some s => exact run_single he nofun rfl
  | array items =>
      have hopen : Build.step ⟨frames, r, e⟩ .openArray =
          some ⟨.array [] :: frames, .null, .valueOrClose⟩ := step_start he nofun
      cases items with
      | nil => exact (run_step hopen).trans (run_cons ..)
      | cons item items =>
          have hitem := run_tokens item (.array [] :: frames) .null (.inr rfl)
          have hitems := run_itemTokens items [item.value] frames
          refine (run_step hopen).trans ?_
          rw [List.append_eq, List.append_assoc, List.append_assoc, hitem]
          exact hitems rest
  | object members =>
      have hopen : Build.step ⟨frames, r, e⟩ .openObject =
          some ⟨.object [] true :: frames, .null, .nameOrClose⟩ := step_start he nofun
      cases members with
      | nil => exact (run_step hopen).trans (run_cons ..)
      | cons member members =>
          obtain ⟨name, item⟩ := member
          have hitem := run_tokens item (.member [] true name :: frames) .null (.inl rfl)
          have hmembers := run_memberTokens members
          refine (run_step hopen).trans ((run_step rfl).trans ((run_step rfl).trans ?_))
          rw [List.append_eq, List.append_assoc, List.append_assoc, hitem]
          cases name with
          | none => exact hmembers [] false frames rest
          | some name =>
              refine (hmembers [(name, item.value)] true frames rest).trans ?_
              rw [value_object]
              exact congrArg (fun ms => (deliver frames (closed ms _)).bind _)
                (List.reverse_cons).symm

/-- Further items are read up to the end of the array. -/
theorem run_itemTokens (items : List Tree) (read : List Json) (frames : List Frame)
    (rest : List Token) :
    Build.run ⟨.array read :: frames, .null, .commaOrClose⟩
        (itemTokens items ++ .closeArray :: rest) =
      (deliver frames (.array (read.reverse ++ itemValues items))).bind (·.run rest) := by
  cases items with
  | nil =>
      rw [itemValues, List.append_nil]
      exact run_cons ..
  | cons item items =>
      have hitem := run_tokens item (.array read :: frames) .null (.inl rfl)
      have hitems := run_itemTokens items (item.value :: read) frames
      refine (run_step rfl).trans ?_
      rw [List.append_eq, List.append_assoc, hitem]
      refine (hitems rest).trans ?_
      rw [List.reverse_cons, List.append_assoc]
      rfl

/-- Further members are read up to the end of the object. -/
theorem run_memberTokens (members : List (Option String × Tree)) (read : List (String × Json))
    (readable : Bool) (frames : List Frame) (rest : List Token) :
    Build.run ⟨.object read readable :: frames, .null, .commaOrClose⟩
        (memberTokens members ++ .closeObject :: rest) =
      (deliver frames (closed ((memberValues members).reverse ++ read)
        (readable && namesReadable members))).bind (·.run rest) := by
  cases members with
  | nil =>
      show _ = (deliver frames (closed read (readable && true))).bind _
      rw [Bool.and_true]
      exact run_cons ..
  | cons member members =>
      obtain ⟨name, item⟩ := member
      have hitem := run_tokens item (.member read readable name :: frames) .null (.inl rfl)
      have hmembers := run_memberTokens members
      refine (run_step rfl).trans ((run_step rfl).trans ((run_step rfl).trans ?_))
      rw [List.append_eq, List.append_assoc, hitem]
      cases name with
      | none =>
          refine (hmembers read false frames rest).trans ?_
          show (deliver frames .unreadable).bind _ =
            (deliver frames (closed _ (readable && false))).bind _
          rw [Bool.and_false]
          rfl
      | some name =>
          refine (hmembers ((name, item.value) :: read) readable frames rest).trans ?_
          rw [memberValues, List.reverse_cons, List.append_assoc]
          rfl

end

/-- A whole document. -/
theorem ofTokens?_tokens (tree : Tree) : ofTokens? tree.tokens = some tree.value := by
  have hrun := run_tokens tree [] .null (.inl rfl) []
  rw [List.append_nil] at hrun
  rw [ofTokens?, Build.empty, hrun]
  rfl

end Tree

/-! ## Nothing else is read -/

namespace Tree

variable {items : List Tree} {members : List (Option String × Tree)} {tree : Tree}
  {name : Option String}

/-- The tokens of an array up to the end of an item. -/
def openedItems : List Tree → List Token
  | [] => [.openArray]
  | first :: rest => .openArray :: (tokens first ++ itemTokens rest)

/-- The tokens of an object up to the end of a member. -/
def openedMembers : List (Option String × Tree) → List Token
  | [] => [.openObject]
  | (name, first) :: rest =>
      .openObject :: .text name :: .colon :: (tokens first ++ memberTokens rest)

/-- What stands before another item or member. -/
def separator {α : Type} : List α → List Token
  | [] => []
  | _ :: _ => [.comma]

theorem separator_eq {α : Type} {parts : List α} (h : parts ≠ []) : separator parts = [.comma] := by
  cases parts with
  | nil => exact absurd rfl h
  | cons _ _ => rfl

theorem tokens_array (items : List Tree) :
    tokens (.array items) = openedItems items ++ [.closeArray] := by
  cases items with
  | nil => rfl
  | cons first rest => rw [tokens, openedItems, List.cons_append, List.append_assoc]

theorem tokens_object (members : List (Option String × Tree)) :
    tokens (.object members) = openedMembers members ++ [.closeObject] := by
  cases members with
  | nil => rfl
  | cons first rest =>
      obtain ⟨name, item⟩ := first
      rw [tokens, openedMembers]
      simp only [List.cons_append, List.append_assoc]

theorem tokens_ne_nil (tree : Tree) : tree.tokens ≠ [] := by
  cases tree with
  | null | bool _ | number _ | text _ => exact List.cons_ne_nil _ _
  | array items =>
      rw [tokens_array]
      exact List.append_ne_nil_of_right_ne_nil _ (List.cons_ne_nil _ _)
  | object members =>
      rw [tokens_object]
      exact List.append_ne_nil_of_right_ne_nil _ (List.cons_ne_nil _ _)

theorem itemTokens_snoc (items : List Tree) (tree : Tree) :
    itemTokens (items ++ [tree]) = itemTokens items ++ .comma :: tree.tokens := by
  induction items with
  | nil => simp only [List.nil_append, itemTokens, List.append_nil]
  | cons first rest ih =>
      rw [List.cons_append, itemTokens, itemTokens, ih, List.cons_append, List.append_assoc]

theorem openedItems_snoc (items : List Tree) (tree : Tree) :
    openedItems (items ++ [tree]) = openedItems items ++ (separator items ++ tree.tokens) := by
  cases items with
  | nil =>
      rw [List.nil_append, openedItems, openedItems, itemTokens, List.append_nil]
      rfl
  | cons first rest =>
      rw [List.cons_append, openedItems, openedItems, itemTokens_snoc]
      simp only [separator, List.cons_append, List.append_assoc, List.nil_append]

theorem memberTokens_snoc (members : List (Option String × Tree)) (name : Option String)
    (tree : Tree) :
    memberTokens (members ++ [(name, tree)]) =
      memberTokens members ++ .comma :: .text name :: .colon :: tree.tokens := by
  induction members with
  | nil => simp only [List.nil_append, memberTokens, List.append_nil]
  | cons first rest ih =>
      obtain ⟨key, item⟩ := first
      rw [List.cons_append, memberTokens, memberTokens, ih]
      simp only [List.cons_append, List.append_assoc]

theorem openedMembers_snoc (members : List (Option String × Tree)) (name : Option String)
    (tree : Tree) :
    openedMembers (members ++ [(name, tree)]) =
      openedMembers members ++ (separator members ++ ([.text name, .colon] ++ tree.tokens)) := by
  cases members with
  | nil =>
      rw [List.nil_append, openedMembers, openedMembers, memberTokens, List.append_nil]
      rfl
  | cons first rest =>
      obtain ⟨key, item⟩ := first
      rw [List.cons_append, openedMembers, openedMembers, memberTokens_snoc]
      simp only [separator, List.cons_append, List.append_assoc, List.nil_append]

theorem itemValues_eq_map (items : List Tree) : itemValues items = items.map value := by
  induction items with
  | nil => rfl
  | cons first rest ih => rw [itemValues, ih, List.map_cons]

theorem reverse_itemValues_snoc (items : List Tree) (tree : Tree) :
    (itemValues (items ++ [tree])).reverse = tree.value :: (itemValues items).reverse := by
  rw [itemValues_eq_map, List.map_append, List.reverse_append, itemValues_eq_map]
  rfl

theorem memberValues_append (members more : List (Option String × Tree)) :
    memberValues (members ++ more) = memberValues members ++ memberValues more := by
  induction members with
  | nil => rfl
  | cons first rest ih =>
      obtain ⟨name, item⟩ := first
      cases name with
      | none => exact ih
      | some name => rw [List.cons_append, memberValues, memberValues, ih, List.cons_append]

theorem reverse_memberValues_snoc_none (members : List (Option String × Tree)) (tree : Tree) :
    (memberValues (members ++ [(none, tree)])).reverse = (memberValues members).reverse := by
  rw [memberValues_append]
  exact congrArg List.reverse (List.append_nil _)

theorem reverse_memberValues_snoc_some (members : List (Option String × Tree)) (name : String)
    (tree : Tree) :
    (memberValues (members ++ [(some name, tree)])).reverse =
      (name, tree.value) :: (memberValues members).reverse := by
  rw [memberValues_append, List.reverse_append]
  rfl

theorem namesReadable_snoc (members : List (Option String × Tree)) (name : Option String)
    (tree : Tree) :
    namesReadable (members ++ [(name, tree)]) = (namesReadable members && name.isSome) := by
  rw [namesReadable, List.all_append]
  exact congrArg (namesReadable members && ·) (Bool.and_true _)

end Tree

open CloudReconciler.Json.Tree in
/-- The tokens lead to a stack that waits for a value. -/
inductive Awaits : List Frame → List Token → Prop
  | root : Awaits [] []
  | item {frames ts} (items) : Awaits frames ts →
      Awaits (.array (itemValues items).reverse :: frames)
        (ts ++ (openedItems items ++ separator items))
  | member {frames ts} (members name) : Awaits frames ts →
      Awaits (.member (memberValues members).reverse (namesReadable members) name :: frames)
        (ts ++ (openedMembers members ++ (separator members ++ [.text name, .colon])))

open CloudReconciler.Json.Tree in
/-- The tokens lead to the reader. -/
inductive Follows : Build → List Token → Prop
  | value {frames ts r} : Awaits frames ts → Follows ⟨frames, r, .value⟩ ts
  | valueOrClose {frames ts r} : Awaits frames ts →
      Follows ⟨.array [] :: frames, r, .valueOrClose⟩ (ts ++ [.openArray])
  | items {frames ts r items} : Awaits frames ts → items ≠ [] →
      Follows ⟨.array (itemValues items).reverse :: frames, r, .commaOrClose⟩
        (ts ++ openedItems items)
  | members {frames ts r members} : Awaits frames ts → members ≠ [] →
      Follows
        ⟨.object (memberValues members).reverse (namesReadable members) :: frames, r, .commaOrClose⟩
        (ts ++ openedMembers members)
  | name {frames ts} (r members) : Awaits frames ts →
      Follows ⟨.object (memberValues members).reverse (namesReadable members) :: frames, r, .name⟩
        (ts ++ (openedMembers members ++ separator members))
  | nameOrClose {frames ts r} : Awaits frames ts →
      Follows ⟨.object [] true :: frames, r, .nameOrClose⟩ (ts ++ [.openObject])
  | colon {frames ts} (r members name) : Awaits frames ts →
      Follows
        ⟨.member (memberValues members).reverse (namesReadable members) name :: frames, r, .colon⟩
        (ts ++ (openedMembers members ++ (separator members ++ [.text name])))
  | done {tree} : Follows ⟨[], Tree.value tree, .nothing⟩ (tokens tree)

section

open Build

variable {frames : List Frame} {t : Token} {ts : List Token} {b next : Build}

/-- A tree takes the place that waits for a value. -/
theorem Awaits.deliver (h : Awaits frames ts) (tree : Tree)
    (hnext : Build.deliver frames tree.value = some next) : Follows next (ts ++ tree.tokens) := by
  cases h with
  | root =>
      cases hnext
      exact .done
  | @item frames ts items h =>
      cases hnext
      have hitems := Follows.items (r := .null) h (List.append_ne_nil_of_right_ne_nil items
        (List.cons_ne_nil tree []))
      rw [Tree.openedItems_snoc, Tree.reverse_itemValues_snoc] at hitems
      rw [List.append_assoc, List.append_assoc]
      exact hitems
  | @member frames ts members name h =>
      have hmembers := Follows.members (r := .null) h (List.append_ne_nil_of_right_ne_nil members
        (List.cons_ne_nil (name, tree) []))
      rw [Tree.openedMembers_snoc, Tree.namesReadable_snoc] at hmembers
      rw [List.append_assoc, List.append_assoc, List.append_assoc]
      cases name with
      | none =>
          cases hnext
          rw [Tree.reverse_memberValues_snoc_none, Option.isSome_none, Bool.and_false] at hmembers
          exact hmembers
      | some name =>
          cases hnext
          rw [Tree.reverse_memberValues_snoc_some, Option.isSome_some, Bool.and_true] at hmembers
          exact hmembers

/-- A token where a value may start. -/
theorem Awaits.startValue (h : Awaits frames ts)
    (hnext : Build.startValue frames t = some next) : Follows next (ts ++ [t]) := by
  cases t with
  | openArray =>
      cases hnext
      exact .valueOrClose h
  | openObject =>
      cases hnext
      exact .nameOrClose h
  | null => exact h.deliver .null hnext
  | bool b => exact h.deliver (.bool b) hnext
  | number n =>
      cases n with
      | none => exact h.deliver (.number none) hnext
      | some n => exact h.deliver (.number (some n)) hnext
  | text s =>
      cases s with
      | none => exact h.deliver (.text none) hnext
      | some s => exact h.deliver (.text (some s)) hnext
  | closeArray | closeObject | colon | comma => exact nomatch hnext

/-- The end of an array. -/
theorem Awaits.closeArray (h : Awaits frames ts) (items : List Tree)
    (hnext : Build.deliver frames (.array (Tree.itemValues items)) = some next) :
    Follows next (ts ++ Tree.openedItems items ++ [.closeArray]) := by
  have hclosed := h.deliver (.array items) hnext
  rwa [Tree.tokens_array, ← List.append_assoc] at hclosed

/-- The end of an object. -/
theorem Awaits.closeObject (h : Awaits frames ts) (members : List (Option String × Tree))
    (hnext : Build.deliver frames (Tree.value (.object members)) = some next) :
    Follows next (ts ++ Tree.openedMembers members ++ [.closeObject]) := by
  have hclosed := h.deliver (.object members) hnext
  rwa [Tree.tokens_object, ← List.append_assoc] at hclosed

/-- The name of a member. -/
theorem Awaits.startMember (h : Awaits frames ts) (members : List (Option String × Tree))
    (hnext : Build.startMember
      (.object (Tree.memberValues members).reverse (Tree.namesReadable members) :: frames) t =
        some next) :
    Follows next (ts ++ (Tree.openedMembers members ++ Tree.separator members) ++ [t]) := by
  cases t with
  | text name =>
      cases hnext
      have hcolon := Follows.colon .null members name h
      rw [List.append_assoc, List.append_assoc]
      exact hcolon
  | openArray | openObject | closeArray | closeObject | colon | comma | null | bool _
  | number _ => exact nomatch hnext

/-- One token. -/
theorem Follows.step (h : Follows b ts) (hstep : b.step t = some next) :
    Follows next (ts ++ [t]) := by
  cases h with
  | value h => exact h.startValue hstep
  | @valueOrClose frames ts r h =>
      by_cases ht : t = .closeArray
      · subst ht
        exact h.closeArray [] hstep
      · have hfirst : Awaits (.array [] :: frames) (ts ++ [.openArray]) := h.item []
        exact hfirst.startValue ((if_neg ht).symm.trans hstep)
  | @items frames ts r items h hne =>
      by_cases ht : t = .comma
      · subst ht
        cases hstep
        have hnext := h.item items
        rw [Tree.separator_eq hne, ← List.append_assoc] at hnext
        exact .value hnext
      · have hclose := (if_neg ht).symm.trans hstep
        cases t with
        | closeArray =>
            refine h.closeArray items (Eq.trans ?_ hclose)
            exact congrArg (Build.deliver frames)
              (congrArg Json.array (List.reverse_reverse _).symm)
        | openArray | openObject | closeObject | colon | comma | null | bool _ | number _
        | text _ => exact nomatch hclose
  | @members frames ts r members h hne =>
      by_cases ht : t = .comma
      · subst ht
        cases hstep
        have hnext := Follows.name .null members h
        rw [Tree.separator_eq hne, ← List.append_assoc] at hnext
        exact hnext
      · have hclose := (if_neg ht).symm.trans hstep
        cases t with
        | closeObject =>
            refine h.closeObject members (Eq.trans ?_ hclose)
            rw [Tree.value_object]
            rfl
        | openArray | openObject | closeArray | colon | comma | null | bool _ | number _
        | text _ => exact nomatch hclose
  | @name frames ts r members h => exact h.startMember members hstep
  | @nameOrClose frames ts r h =>
      by_cases ht : t = .closeObject
      · subst ht
        exact h.closeObject [] hstep
      · exact h.startMember [] ((if_neg ht).symm.trans hstep)
  | @colon frames ts r members name h =>
      by_cases ht : t = .colon
      · subst ht
        cases hstep
        have hnext := h.member members name
        rw [List.append_assoc, List.append_assoc, List.append_assoc]
        exact .value hnext
      · exact nomatch (if_neg ht).symm.trans hstep
  | done => exact nomatch hstep

theorem Follows.run {us : List Token} (h : Follows b ts) (hrun : b.run us = some next) :
    Follows next (ts ++ us) := by
  induction us generalizing b ts with
  | nil =>
      cases hrun
      rw [List.append_nil]
      exact h
  | cons t us ih =>
      rw [run_cons] at hrun
      obtain ⟨b', hstep, hrun⟩ := Option.bind_eq_some_iff.1 hrun
      rw [List.append_cons]
      exact ih (h.step hstep) hrun

/-- Tokens spell a document exactly when they are those of a tree that means it. -/
theorem ofTokens?_eq_some_iff {j : Json} :
    ofTokens? ts = some j ↔ ∃ tree : Tree, tree.tokens = ts ∧ tree.value = j := by
  constructor
  · intro h
    obtain ⟨b, hrun, hend⟩ := Option.bind_eq_some_iff.1 h
    have hfollows : Follows b ([] ++ ts) := Follows.run (.value .root) hrun
    rw [List.nil_append] at hfollows
    cases hfollows with
    | done =>
        cases hend
        exact ⟨_, rfl, rfl⟩
    | value _ | valueOrClose _ | items _ _ | members _ _ | name _ | nameOrClose _ | colon _ =>
        exact nomatch hend
  · rintro ⟨tree, rfl, rfl⟩
    exact tree.ofTokens?_tokens

end

/-! ## Trees as bytes -/

namespace Token

variable {t : Token} {ts us : List Token}

/-- A row of tokens that ends in one with an end of its own, or is followed by such a one. -/
theorem Separated.append (h : Separated ts) (h' : Separated us)
    (hus : ∀ t ∈ us.head?, t.isRun = false) : Separated (ts ++ us) := by
  induction ts with
  | nil => exact h'
  | cons t ts ih =>
      refine ⟨fun t' ht' hrun => ?_, ih h.2⟩
      cases ts with
      | nil => exact hus t' ht'
      | cons t'' ts => exact h.1 t' ht' hrun

theorem Separated.cons (ht : t.isRun = false) (h : Separated ts) : Separated (t :: ts) :=
  ⟨fun _ _ hrun => (nomatch ht.symm.trans hrun), h⟩

end Token

namespace Tree

theorem isRun_head?_itemTokens (items : List Tree) :
    ∀ t ∈ (itemTokens items).head?, t.isRun = false := by
  cases items with
  | nil => exact fun t ht => nomatch ht
  | cons item items =>
      rintro t ⟨⟩
      rfl

theorem isRun_head?_memberTokens (members : List (Option String × Tree)) :
    ∀ t ∈ (memberTokens members).head?, t.isRun = false := by
  cases members with
  | nil => exact fun t ht => nomatch ht
  | cons member members =>
      rintro t ⟨⟩
      rfl

/-- The end of an array or object behind its parts. -/
theorem separated_concat {ts : List Token} {t : Token} (h : Token.Separated ts)
    (ht : t.isRun = false) : Token.Separated (ts ++ [t]) := by
  refine h.append (.cons ht trivial) ?_
  rintro t' ⟨⟩
  exact ht

mutual

/-- Between the tokens of a tree no blanks are needed. -/
theorem separated_tokens (tree : Tree) : Token.Separated tree.tokens := by
  cases tree with
  | null | bool _ | number _ | text _ => exact ⟨fun _ ht => (nomatch ht), trivial⟩
  | array items =>
      rw [tokens_array]
      refine separated_concat ?_ rfl
      cases items with
      | nil => exact .cons rfl trivial
      | cons item items =>
          have hitem := separated_tokens item
          have hitems := separated_itemTokens items
          exact .cons rfl (hitem.append hitems (isRun_head?_itemTokens items))
  | object members =>
      rw [tokens_object]
      refine separated_concat ?_ rfl
      cases members with
      | nil => exact .cons rfl trivial
      | cons member members =>
          obtain ⟨name, item⟩ := member
          have hitem := separated_tokens item
          have hmembers := separated_memberTokens members
          exact .cons rfl (.cons rfl (.cons rfl
            (hitem.append hmembers (isRun_head?_memberTokens members))))

theorem separated_itemTokens (items : List Tree) : Token.Separated (itemTokens items) := by
  cases items with
  | nil => trivial
  | cons item items =>
      have hitem := separated_tokens item
      have hitems := separated_itemTokens items
      exact .cons rfl (hitem.append hitems (isRun_head?_itemTokens items))

theorem separated_memberTokens (members : List (Option String × Tree)) :
    Token.Separated (memberTokens members) := by
  cases members with
  | nil => trivial
  | cons member members =>
      obtain ⟨name, item⟩ := member
      have hitem := separated_tokens item
      have hmembers := separated_memberTokens members
      exact .cons rfl (.cons rfl (.cons rfl
        (hitem.append hmembers (isRun_head?_memberTokens members))))

end

end Tree

/-- Bytes spell a document exactly when they are a layout of the tokens of a tree that means it. -/
theorem ofBytes?_eq_some_iff {bytes : List UInt8} {j : Json} :
    ofBytes? bytes = some j ↔
      ∃ tree : Tree, Token.Layout tree.tokens bytes ∧ tree.value = j := by
  constructor
  · intro h
    obtain ⟨ts, hscan, hread⟩ := Option.bind_eq_some_iff.1 h
    obtain ⟨tree, rfl, hvalue⟩ := ofTokens?_eq_some_iff.1 hread
    exact ⟨tree, Token.layout_of_scan? hscan, hvalue⟩
  · rintro ⟨tree, hlayout, rfl⟩
    rw [ofBytes?, Token.scan?_of_layout hlayout tree.separated_tokens]
    exact tree.ofTokens?_tokens

end CloudReconciler.Json
