import CloudReconciler.Proofs.Json.Lexeme

/-! # Scanning — the machine reads exactly the layouts

    A numeral or a word has no end of its own: the byte after it ends it.
    So what the machine knows is stated up to `Scan.settle`: a machine that
    is `Ready` for tokens is between them, or inside a last one that the
    next byte may end. -/

namespace CloudReconciler.Json.Token

/-! ## Bytes that start a token -/

section

variable {s s' : Scan} {T : List Token} {mode : Mode} {b : UInt8} {bs cs : List UInt8} {t : Token}
  {c : Char}

theorem Scan.run_cons_eq_bind (s : Scan) (b : UInt8) (bs : List UInt8) :
    s.run (b :: bs) = (s.step b).bind (·.run bs) := by
  rw [run]
  cases s.step b with
  | none => rfl
  | some next => rfl

theorem Scan.run_append (s : Scan) (bs cs : List UInt8) :
    s.run (bs ++ cs) = (s.run bs).bind (·.run cs) := by
  induction bs generalizing s with
  | nil => rfl
  | cons b bs ih =>
      rw [List.cons_append, run_cons_eq_bind, run_cons_eq_bind]
      cases s.step b with
      | none => rfl
      | some next => exact ih next

theorem Scan.run_cons (h : s.step b = some s') : s.run (b :: bs) = s'.run bs := by
  rw [run_cons_eq_bind, h]
  rfl

theorem Scan.run_trans (h : s.run bs = some s') : s.run (bs ++ cs) = s'.run cs := by
  rw [run_append, h]
  rfl

theorem start_blank (h : c ∈ [' ', '\t', '\n', '\r']) :
    Scan.start ⟨T, mode⟩ c = some ⟨T, .between⟩ := by
  simp only [List.mem_cons, List.not_mem_nil, or_false] at h
  rcases h with rfl | rfl | rfl | rfl
  all_goals rfl

theorem start_mark (h : (c, t) ∈ marks) :
    Scan.start ⟨T, mode⟩ c = some ⟨t :: T, .between⟩ := by
  simp only [marks, List.mem_cons, Prod.mk.injEq, List.not_mem_nil, or_false] at h
  rcases h with ⟨rfl, rfl⟩ | ⟨rfl, rfl⟩ | ⟨rfl, rfl⟩ | ⟨rfl, rfl⟩ | ⟨rfl, rfl⟩ | ⟨rfl, rfl⟩
  all_goals rfl

/-- Any other character starts a string, a numeral or a word. -/
theorem start_cases (h : Scan.start ⟨T, mode⟩ c = some s) :
    (c ∈ [' ', '\t', '\n', '\r'] ∧ s = ⟨T, .between⟩) ∨
    (∃ t, (c, t) ∈ marks ∧ s = ⟨t :: T, .between⟩) ∨
    (c = '"' ∧ s = ⟨T, .quoted .empty⟩) ∨
    ((c == '-' || c.isDigit) = true ∧ s = ⟨T, .number [c]⟩) ∨
    (c.isLower = true ∧ s = ⟨T, .word [c]⟩) := by
  unfold Scan.start at h
  split at h
  iterate 4
    · cases h
      exact .inl ⟨by decide, rfl⟩
  iterate 6
    · cases h
      exact .inr (.inl ⟨_, by decide, rfl⟩)
  · cases h
    exact .inr (.inr (.inl ⟨rfl, rfl⟩))
  · split at h
    · next hc =>
        cases h
        exact .inr (.inr (.inr (.inl ⟨hc, rfl⟩)))
    · split at h
      · next hc =>
          cases h
          exact .inr (.inr (.inr (.inr ⟨hc, rfl⟩)))
      · exact nomatch h

theorem start_number (h : (c == '-' || c.isDigit) = true) :
    Scan.start ⟨T, mode⟩ c = some ⟨T, .number [c]⟩ := by
  unfold Scan.start
  split
  iterate 11
    · exact absurd h (by decide)
  · exact if_pos h

theorem start_word (h : c.isLower = true) : Scan.start ⟨T, mode⟩ c = some ⟨T, .word [c]⟩ := by
  unfold Scan.start
  split
  iterate 11
    · exact absurd h (by decide)
  · rw [if_neg, if_pos h]
    obtain ⟨hlow, -⟩ := Bool.and_eq_true_iff.1 h
    rw [Bool.or_eq_true, beq_iff_eq, Char.isDigit, Bool.and_eq_true, decide_eq_true_iff,
      decide_eq_true_iff]
    rintro (rfl | ⟨-, hdigit⟩)
    · exact absurd h (by decide)
    · exact absurd (UInt32.le_trans (of_decide_eq_true hlow) hdigit) (by decide)

/-! ## Machines that may go on -/

/-- The machine has read the tokens, latest first, the last of which the next byte may have to
    end. -/
def Scan.Ready (s : Scan) (T : List Token) : Prop := s.settle = some ⟨T, .between⟩

theorem Scan.ready_between (T : List Token) : Scan.Ready ⟨T, .between⟩ T := rfl

theorem Scan.Ready.eq (h : s.Ready T) (hs : s.mode = .between) : s = ⟨T, .between⟩ := by
  obtain ⟨T', mode⟩ := s
  cases hs
  exact Option.some.inj h

/-- A byte that goes on with neither a numeral nor a word starts what comes next. -/
theorem Scan.Ready.step (h : s.Ready T) (hnumeral : isNumeralChar (charOf b) = false)
    (hlower : (charOf b).isLower = false) : s.step b = Scan.start ⟨T, .between⟩ (charOf b) := by
  obtain ⟨T', mode⟩ := s
  cases mode with
  | between =>
      cases h
      rfl
  | number read =>
      refine (if_neg (Bool.not_eq_true _ ▸ hnumeral)).trans ?_
      rw [h]
      rfl
  | word read =>
      refine (if_neg (Bool.not_eq_true _ ▸ hlower)).trans ?_
      rw [h]
      rfl
  | quoted q | escape q | unit q value owed => exact nomatch h

/-- Blanks end the last token. -/
theorem Scan.Ready.run_blank (h : s.Ready T) (hbs : IsBlank bs) :
    ∃ s', s.run bs = some s' ∧ s'.Ready T ∧ (s.mode = .between → s'.mode = .between) := by
  induction bs generalizing s with
  | nil => exact ⟨s, rfl, h, id⟩
  | cons b bs ih =>
      have hb := hbs b (List.mem_cons_self ..)
      have hplain : isNumeralChar (charOf b) = false ∧ (charOf b).isLower = false := by
        have hb' := hb
        simp only [List.mem_cons, List.not_mem_nil, or_false] at hb'
        rcases hb' with he | he | he | he
        all_goals
          rw [he]
          decide
      have hstep := (h.step hplain.1 hplain.2).trans (start_blank hb)
      obtain ⟨s', hrun, hready, hmode⟩ :=
        ih (ready_between T) fun b hb => hbs b (List.mem_cons_of_mem _ hb)
      exact ⟨s', (run_cons hstep).trans hrun, hready, fun _ => hmode rfl⟩

/-! ## Lexemes -/

theorem step_number (h : isNumeralChar (charOf b) = true) (read : List Char) :
    Scan.step ⟨T, .number read⟩ b = some ⟨T, .number (charOf b :: read)⟩ := if_pos h

theorem step_word (h : (charOf b).isLower = true) (read : List Char) :
    Scan.step ⟨T, .word read⟩ b = some ⟨T, .word (charOf b :: read)⟩ := if_pos h

theorem run_number (h : ∀ c ∈ bs.map charOf, isNumeralChar c = true) (read : List Char) :
    Scan.run ⟨T, .number read⟩ bs = some ⟨T, .number ((bs.map charOf).reverse ++ read)⟩ := by
  induction bs generalizing read with
  | nil => rfl
  | cons b bs ih =>
      obtain ⟨hb, hbs⟩ := List.forall_mem_cons.1 h
      rw [Scan.run_cons (step_number hb read), ih hbs, List.map_cons, List.reverse_cons,
        List.append_assoc]
      rfl

theorem run_word (h : ∀ c ∈ bs.map charOf, c.isLower = true) (read : List Char) :
    Scan.run ⟨T, .word read⟩ bs = some ⟨T, .word ((bs.map charOf).reverse ++ read)⟩ := by
  induction bs generalizing read with
  | nil => rfl
  | cons b bs ih =>
      obtain ⟨hb, hbs⟩ := List.forall_mem_cons.1 h
      rw [Scan.run_cons (step_word hb read), ih hbs, List.map_cons, List.reverse_cons,
        List.append_assoc]
      rfl

theorem ofWord_of_mem {w : String} (h : (w, t) ∈ words) : ofWord w.toList.reverse = some t := by
  simp only [words, List.mem_cons, Prod.mk.injEq, List.not_mem_nil, or_false] at h
  rcases h with ⟨rfl, rfl⟩ | ⟨rfl, rfl⟩ | ⟨rfl, rfl⟩
  all_goals rfl

theorem mem_of_ofWord {read : List Char} (h : ofWord read = some t) :
    ∃ w, (w, t) ∈ words ∧ read.reverse = w.toList := by
  rw [ofWord] at h
  split at h
  · next he =>
      cases h
      exact ⟨"null", by decide, by rw [← he, String.toList_ofList]⟩
  · next he =>
      cases h
      exact ⟨"true", by decide, by rw [← he, String.toList_ofList]⟩
  · next he =>
      cases h
      exact ⟨"false", by decide, by rw [← he, String.toList_ofList]⟩
  · exact nomatch h

/-- The characters of words. -/
theorem word_spec {w : String} (h : (w, t) ∈ words) :
    (∃ c cs, w.toList = c :: cs) ∧ (∀ c ∈ w.toList, c.isLower = true) ∧ t.isRun = true := by
  simp only [words, List.mem_cons, Prod.mk.injEq, List.not_mem_nil, or_false] at h
  rcases h with ⟨rfl, rfl⟩ | ⟨rfl, rfl⟩ | ⟨rfl, rfl⟩
  all_goals exact ⟨⟨_, _, rfl⟩, List.all_eq_true.1 (by decide), rfl⟩

/-- A numeral between tokens. -/
theorem Scan.run_numeral {n : Numeral} (h : n.Spells (bs.map charOf)) :
    ∃ s', Scan.run ⟨T, .between⟩ bs = some s' ∧ s'.Ready (.number (numberValue n) :: T) := by
  obtain ⟨c, tail, hcs, hc⟩ := h.exists_cons
  obtain ⟨b, rest, rfl, rfl, rfl⟩ := List.map_eq_cons_iff.1 hcs
  have hchars := (List.forall_mem_cons.1 h.isNumeralChar).2
  have hstep : Scan.step ⟨T, .between⟩ b = some ⟨T, .number [charOf b]⟩ := start_number hc
  refine ⟨_, (run_cons hstep).trans (run_number hchars _), ?_⟩
  show (ofNumeral ((rest.map charOf).reverse ++ [charOf b])).map _ = _
  rw [← List.reverse_cons, ofNumeral, List.reverse_reverse, ← hcs, numeral?_eq_some_iff.2 h]
  rfl

/-- A word between tokens. -/
theorem Scan.run_ofWord {w : String} (hw : (w, t) ∈ words) (h : bs.map charOf = w.toList) :
    ∃ s', Scan.run ⟨T, .between⟩ bs = some s' ∧ s'.Ready (t :: T) := by
  obtain ⟨⟨c, tail, hcs⟩, hlower, -⟩ := word_spec hw
  have hword := ofWord_of_mem hw
  rw [hcs] at h hlower hword
  obtain ⟨b, rest, rfl, rfl, rfl⟩ := List.map_eq_cons_iff.1 h
  obtain ⟨hb, hrest⟩ := List.forall_mem_cons.1 hlower
  have hstep : Scan.step ⟨T, .between⟩ b = some ⟨T, .word [charOf b]⟩ := start_word hb
  refine ⟨_, (run_cons hstep).trans (run_word hrest _), ?_⟩
  show (ofWord ((rest.map charOf).reverse ++ [charOf b])).map _ = _
  rw [← List.reverse_cons, hword]
  rfl

/-! ### Strings -/

theorem step_hex {q : Quoted} {value owed digit : Nat} (h : hexValue? (charOf b) = some digit) :
    Scan.step ⟨T, .unit q value (owed + 2)⟩ b =
      some ⟨T, .unit q (value * 16 + digit) (owed + 1)⟩ := by
  show (hexValue? (charOf b)).map _ = _
  rw [h]
  rfl

theorem step_lastHex {q : Quoted} {value digit : Nat} (h : hexValue? (charOf b) = some digit) :
    Scan.step ⟨T, .unit q value 1⟩ b = some ⟨T, .quoted (q.unit (value * 16 + digit))⟩ := by
  show (hexValue? (charOf b)).map _ = _
  rw [h]
  rfl

theorem run_hex {q : Quoted} {value u : Nat} (hne : bs ≠ []) (h : hexValueFrom? value bs = some u) :
    Scan.run ⟨T, .unit q value bs.length⟩ bs = some ⟨T, .quoted (q.unit u)⟩ := by
  induction bs generalizing value with
  | nil => exact absurd rfl hne
  | cons b bs ih =>
      obtain ⟨next, hnext, hrest⟩ := Option.bind_eq_some_iff.1 h
      obtain ⟨digit, hdigit, rfl⟩ := Option.map_eq_some_iff.1 hnext
      cases bs with
      | nil =>
          cases hrest
          exact Scan.run_cons (step_lastHex hdigit)
      | cons b' bs =>
          exact (Scan.run_cons (step_hex hdigit)).trans (ih (List.cons_ne_nil _ _) hrest)

theorem step_quote {q : Quoted} (h : charOf b = '"') :
    Scan.step ⟨T, .quoted q⟩ b = some ⟨q.finish :: T, .between⟩ :=
  if_pos (beq_iff_eq.2 h)

theorem step_slash {q : Quoted} (h : charOf b = '\\') :
    Scan.step ⟨T, .quoted q⟩ b = some ⟨T, .escape q⟩ := by
  have hne : ¬ (charOf b == '"') = true := by
    rw [h]
    decide
  exact (if_neg hne).trans (if_pos (beq_iff_eq.2 h))

theorem step_byte {q : Quoted} (hquote : charOf b ≠ '"') (hslash : charOf b ≠ '\\')
    (hb : ¬ b < 0x20) : Scan.step ⟨T, .quoted q⟩ b = some ⟨T, .quoted (q.byte b)⟩ :=
  (if_neg (beq_iff_eq.not.2 hquote)).trans
    ((if_neg (beq_iff_eq.not.2 hslash)).trans (if_neg hb))

theorem step_short {q : Quoted} {c : Char} (h : (charOf b, c) ∈ shortEscapes) :
    Scan.step ⟨T, .escape q⟩ b = some ⟨T, .quoted (q.char c)⟩ := by
  rw [charOf] at h
  rw [Scan.step]
  dsimp only
  generalize Char.ofNat b.toNat = mark at h ⊢
  simp only [shortEscapes, List.mem_cons, Prod.mk.injEq, List.not_mem_nil, or_false] at h
  rcases h with ⟨rfl, rfl⟩ | ⟨rfl, rfl⟩ | ⟨rfl, rfl⟩ | ⟨rfl, rfl⟩ | ⟨rfl, rfl⟩ | ⟨rfl, rfl⟩ |
    ⟨rfl, rfl⟩ | ⟨rfl, rfl⟩
  all_goals rfl

theorem step_unit {q : Quoted} (h : charOf b = 'u') :
    Scan.step ⟨T, .escape q⟩ b = some ⟨T, .unit q 0 4⟩ := by
  rw [charOf] at h
  rw [Scan.step]
  dsimp only
  rw [h]
  rfl

/-- What a byte behind a backslash does. -/
theorem step_escape_cases {q : Quoted} (h : Scan.step ⟨T, .escape q⟩ b = some s) :
    (∃ c, (charOf b, c) ∈ shortEscapes ∧ s = ⟨T, .quoted (q.char c)⟩) ∨
      charOf b = 'u' ∧ s = ⟨T, .unit q 0 4⟩ := by
  rw [Scan.step] at h
  rw [charOf]
  dsimp only at h
  generalize Char.ofNat b.toNat = mark at h ⊢
  split at h
  iterate 8
    · cases h
      exact .inl ⟨_, by decide, rfl⟩
  · cases h
    exact .inr ⟨rfl, rfl⟩
  · exact nomatch h

/-- An element is fed to the string. -/
theorem Element.Written.run {e : Element} {q : Quoted} (h : e.Written bs) :
    Scan.run ⟨T, .quoted q⟩ bs = some ⟨T, .quoted (q.feed e)⟩ := by
  cases h with
  | byte hquote hslash hb => exact Scan.run_cons (step_byte hquote hslash hb)
  | char hslash hmark =>
      exact (Scan.run_cons (step_slash hslash)).trans (Scan.run_cons (step_short hmark))
  | unit hslash hmark hlength hvalue =>
      refine (Scan.run_cons (step_slash hslash)).trans ((Scan.run_cons (step_unit hmark)).trans ?_)
      rw [← hlength]
      refine run_hex ?_ hvalue
      rintro rfl
      exact nomatch hlength

theorem Elements.run {es : List Element} {q : Quoted} (h : Elements es bs) :
    Scan.run ⟨T, .quoted q⟩ bs = some ⟨T, .quoted (es.foldl Quoted.feed q)⟩ := by
  induction h generalizing q with
  | nil => rfl
  | cons he _ ih => exact (Scan.run_trans he.run).trans ih

/-! ## Layouts are read -/

/-- A lexeme behind whatever has been read; a numeral or a word only between tokens. -/
theorem Lexeme.run (h : Lexeme t bs) (hs : s.Ready T)
    (hmode : t.isRun = true → s.mode = .between) :
    ∃ s', s.run bs = some s' ∧ s'.Ready (t :: T) ∧ (t.isRun = false → s'.mode = .between) := by
  cases h with
  | @mark b _ hb =>
      have hplain : isNumeralChar (charOf b) = false ∧ (charOf b).isLower = false := by
        have hb' := hb
        simp only [marks, List.mem_cons, Prod.mk.injEq, List.not_mem_nil, or_false] at hb'
        rcases hb' with ⟨he, -⟩ | ⟨he, -⟩ | ⟨he, -⟩ | ⟨he, -⟩ | ⟨he, -⟩ | ⟨he, -⟩
        all_goals
          rw [he]
          decide
      have hstep := (hs.step hplain.1 hplain.2).trans (start_mark hb)
      exact ⟨_, Scan.run_cons hstep, Scan.ready_between _, fun _ => rfl⟩
  | word hw hbs =>
      have hrun := (word_spec hw).2.2
      rw [hs.eq (hmode hrun)]
      obtain ⟨s', hs', hready⟩ := Scan.run_ofWord (T := T) hw hbs
      refine ⟨s', hs', hready, fun hne => ?_⟩
      rw [hrun] at hne
      exact nomatch hne
  | number hn =>
      rw [hs.eq (hmode rfl)]
      obtain ⟨s', hs', hready⟩ := Scan.run_numeral (T := T) hn
      exact ⟨s', hs', hready, fun hne => nomatch hne⟩
  | @text before after es bs hbefore hafter hes =>
      have hplain : isNumeralChar (charOf before) = false ∧ (charOf before).isLower = false := by
        rw [hbefore]
        decide
      have hstart : Scan.start ⟨T, .between⟩ (charOf before) = some ⟨T, .quoted .empty⟩ := by
        rw [hbefore]
        rfl
      have hstep := (hs.step hplain.1 hplain.2).trans hstart
      refine ⟨_, (Scan.run_cons hstep).trans ((Scan.run_trans hes.run).trans
        (Scan.run_cons (step_quote hafter))), ?_, fun _ => rfl⟩
      rw [Quoted.finish_foldl_feed]
      exact Scan.ready_between _

/-- A row of tokens behind whatever has been read. -/
theorem Layout.run {ts : List Token} (h : Layout ts bs) (hsep : Separated ts) (hs : s.Ready T)
    (hmode : ∀ t ∈ ts.head?, t.isRun = true → s.mode = .between) :
    ∃ s', s.run bs = some s' ∧ s'.Ready (ts.reverse ++ T) := by
  induction h generalizing s T with
  | blank hbs =>
      obtain ⟨s', hrun, hready, -⟩ := hs.run_blank hbs
      exact ⟨s', hrun, hready⟩
  | @next before bs rest t ts hbefore hl _ ih =>
      obtain ⟨s₁, hrun₁, hready₁, hkept⟩ := hs.run_blank hbefore
      obtain ⟨s₂, hrun₂, hready₂, hended⟩ := hl.run hready₁ fun hrun => hkept (hmode t rfl hrun)
      have hnext : ∀ t' ∈ ts.head?, t'.isRun = true → s₂.mode = .between := by
        intro t' ht' hrun
        refine hended (Bool.eq_false_iff.2 fun ht => ?_)
        rw [hsep.1 t' ht' ht] at hrun
        exact nomatch hrun
      obtain ⟨s₃, hrun₃, hready₃⟩ := ih hsep.2 hready₂ hnext
      refine ⟨s₃, (Scan.run_trans hrun₁).trans ((Scan.run_trans hrun₂).trans hrun₃), ?_⟩
      rw [List.reverse_cons, List.append_assoc]
      exact hready₃

/-- A layout is scanned. -/
theorem scan?_of_layout {ts : List Token} (h : Layout ts bs) (hsep : Separated ts) :
    scan? bs = some ts := by
  obtain ⟨s', hrun, hready⟩ := h.run hsep (Scan.ready_between []) fun _ _ _ => rfl
  rw [List.append_nil] at hready
  have hsettle : s'.settle = some ⟨ts.reverse, .between⟩ := hready
  refine Option.bind_eq_some_iff.2 ⟨s', hrun, Option.bind_eq_some_iff.2 ⟨_, hsettle, ?_⟩⟩
  exact congrArg some (List.reverse_reverse ts)

/-! ## Nothing else is read -/

/-- What has been read of the bytes of a document. -/
def Scan.Tells (s : Scan) (bs : List UInt8) : Prop :=
  match s.mode with
  | .between => Layout s.tokens.reverse bs
  | .number read | .word read =>
      ∃ before token, bs = before ++ token ∧ Layout s.tokens.reverse before ∧
        token.map charOf = read.reverse
  | .quoted q => Opens s.tokens q [] bs
  | .escape q => ∃ slash, charOf slash = '\\' ∧ Opens s.tokens q [slash] bs
  | .unit q value owed => ∃ slash mark ds, charOf slash = '\\' ∧ charOf mark = 'u' ∧
      ds.length + owed = 4 ∧ 0 < owed ∧ hexValueFrom? 0 ds = some value ∧
      Opens s.tokens q (slash :: mark :: ds) bs
where
  /-- The bytes are tokens, a quote, elements and the beginning of one. -/
  Opens (T : List Token) (q : Quoted) (begun bs : List UInt8) : Prop :=
    ∃ before quote es inside, charOf quote = '"' ∧ Layout T.reverse before ∧
      Elements es inside ∧ q = es.foldl Quoted.feed .empty ∧
      bs = before ++ (quote :: (inside ++ begun))

theorem Layout.blank_append {ts : List Token} (hbs : IsBlank bs) (h : Layout ts cs) :
    Layout ts (bs ++ cs) := by
  cases h with
  | blank hcs => exact .blank (List.forall_mem_append.2 ⟨hbs, hcs⟩)
  | next hbefore hl hrest =>
      rw [← List.append_assoc]
      exact .next (List.forall_mem_append.2 ⟨hbs, hbefore⟩) hl hrest

theorem Layout.append {ts us : List Token} (h : Layout ts bs) (h' : Layout us cs) :
    Layout (ts ++ us) (bs ++ cs) := by
  induction h with
  | blank hbs => exact h'.blank_append hbs
  | next hbefore hl _ ih =>
      rw [List.append_assoc, List.append_assoc]
      exact .next hbefore hl ih

theorem Layout.single (h : Lexeme t bs) : Layout [t] bs := by
  have hone : Layout [t] ([] ++ (bs ++ [])) := .next nofun h (.blank nofun)
  rwa [List.nil_append, List.append_nil] at hone

/-- One more token. -/
theorem Layout.snoc (h : Layout T.reverse bs) (ht : Lexeme t cs) :
    Layout (t :: T).reverse (bs ++ cs) := by
  rw [List.reverse_cons]
  exact h.append (.single ht)

/-- A last numeral or word is a token once it is ended. -/
theorem Scan.Tells.settle (h : s.Tells bs) (hs : s.Ready T) : Layout T.reverse bs := by
  obtain ⟨T', mode⟩ := s
  cases mode with
  | between =>
      cases hs
      exact h
  | number read =>
      obtain ⟨before, token, rfl, hbefore, htoken⟩ := h
      obtain ⟨t, ht, hs⟩ := Option.map_eq_some_iff.1 hs
      obtain ⟨n, hn, rfl⟩ := Option.map_eq_some_iff.1 ht
      cases hs
      rw [← htoken] at hn
      exact hbefore.snoc (.number (numeral?_eq_some_iff.1 hn))
  | word read =>
      obtain ⟨before, token, rfl, hbefore, htoken⟩ := h
      obtain ⟨t, ht, hs⟩ := Option.map_eq_some_iff.1 hs
      obtain ⟨w, hw, hread⟩ := mem_of_ofWord ht
      cases hs
      exact hbefore.snoc (.word hw (htoken.trans hread))
  | quoted q | escape q | unit q value owed => exact nomatch hs

/-- Where the machine settles, it is between tokens, or inside a string. -/
theorem Scan.ready_of_settle (h : s.settle = some s') (hs : s'.mode = .between) :
    s.Ready s'.tokens := by
  obtain ⟨T', mode'⟩ := s'
  cases hs
  exact h

/-- The first byte of a token. -/
theorem Scan.Tells.start (h : Layout T.reverse bs)
    (hstart : Scan.start ⟨T, mode⟩ (charOf b) = some s) : s.Tells (bs ++ [b]) := by
  rcases start_cases hstart with ⟨hb, rfl⟩ | ⟨t, ht, rfl⟩ | ⟨hb, rfl⟩ | ⟨-, rfl⟩ | ⟨-, rfl⟩
  · have hblank : Layout [] [b] := .blank (List.forall_mem_singleton.2 hb)
    have hlayout := h.append hblank
    rwa [List.append_nil] at hlayout
  · exact h.snoc (.mark ht)
  · exact ⟨bs, b, [], [], hb, h, .nil, rfl, rfl⟩
  · exact ⟨bs, [b], rfl, h, rfl⟩
  · exact ⟨bs, [b], rfl, h, rfl⟩

/-- One more character of a numeral or a word. -/
theorem exists_token_snoc {read : List Char}
    (h : ∃ before token, bs = before ++ token ∧ Layout T.reverse before ∧
      token.map charOf = read.reverse) (b : UInt8) :
    ∃ before token, bs ++ [b] = before ++ token ∧ Layout T.reverse before ∧
      token.map charOf = (charOf b :: read).reverse := by
  obtain ⟨before, token, rfl, hbefore, htoken⟩ := h
  refine ⟨before, token ++ [b], List.append_assoc .., hbefore, ?_⟩
  rw [List.map_append, htoken, List.reverse_cons]
  rfl

/-- One more byte of an element. -/
theorem Scan.Tells.Opens.more {q : Quoted} {begun : List UInt8} (h : Opens T q begun bs)
    (b : UInt8) : Opens T q (begun ++ [b]) (bs ++ [b]) := by
  obtain ⟨before, quote, es, inside, hquote, hbefore, hes, hq, rfl⟩ := h
  refine ⟨before, quote, es, inside, hquote, hbefore, hes, hq, ?_⟩
  simp only [List.append_assoc, List.cons_append]

theorem Elements.append {es es' : List Element} (h : Elements es bs) (h' : Elements es' cs) :
    Elements (es ++ es') (bs ++ cs) := by
  induction h with
  | nil => exact h'
  | cons he _ ih =>
      rw [List.append_assoc]
      exact .cons he ih

theorem Elements.single {e : Element} (h : e.Written bs) : Elements [e] bs := by
  have hone : Elements [e] (bs ++ []) := .cons h .nil
  rwa [List.append_nil] at hone

/-- The end of an element. -/
theorem Scan.Tells.Opens.done {q : Quoted} {begun : List UInt8} {e : Element}
    (h : Opens T q begun bs) (he : e.Written (begun ++ [b])) :
    Opens T (q.feed e) [] (bs ++ [b]) := by
  obtain ⟨before, quote, es, inside, hquote, hbefore, hes, rfl, rfl⟩ := h
  refine ⟨before, quote, es ++ [e], inside ++ (begun ++ [b]), hquote, hbefore,
    hes.append (.single he), ?_, ?_⟩
  · rw [List.foldl_append]
    rfl
  · simp only [List.append_assoc, List.cons_append, List.append_nil]

theorem hexValueFrom?_snoc {ds : List UInt8} {value digit : Nat}
    (h : hexValueFrom? 0 ds = some value) (hb : hexValue? (charOf b) = some digit) :
    hexValueFrom? 0 (ds ++ [b]) = some (value * 16 + digit) := by
  rw [hexValueFrom?, List.foldlM_append]
  show (hexValueFrom? 0 ds).bind _ = _
  rw [h]
  show ((hexValue? (charOf b)).map _).bind _ = _
  rw [hb]
  rfl

/-- A byte that ends a numeral or a word starts what comes next. -/
theorem Scan.Tells.ended (h : s.Tells bs) (hs : s.settle.bind (·.start (charOf b)) = some s')
    (hmode : ∀ s₁, s.settle = some s₁ → s₁.mode = .between) : s'.Tells (bs ++ [b]) := by
  obtain ⟨⟨T₁, mode₁⟩, hsettle, hstart⟩ := Option.bind_eq_some_iff.1 hs
  exact Tells.start (h.settle (ready_of_settle hsettle (hmode _ hsettle))) hstart

/-- One byte. -/
theorem Scan.Tells.step (h : s.Tells bs) (hstep : s.step b = some s') : s'.Tells (bs ++ [b]) := by
  obtain ⟨T', mode⟩ := s
  cases mode with
  | between => exact Tells.start h hstep
  | number read =>
      by_cases hb : isNumeralChar (charOf b) = true
      · rw [step_number hb] at hstep
        cases hstep
        exact exists_token_snoc h b
      · refine h.ended ((if_neg hb).symm.trans hstep) fun s₁ hs₁ => ?_
        obtain ⟨t, -, rfl⟩ := Option.map_eq_some_iff.1 hs₁
        rfl
  | word read =>
      by_cases hb : (charOf b).isLower = true
      · rw [step_word hb] at hstep
        cases hstep
        exact exists_token_snoc h b
      · refine h.ended ((if_neg hb).symm.trans hstep) fun s₁ hs₁ => ?_
        obtain ⟨t, -, rfl⟩ := Option.map_eq_some_iff.1 hs₁
        rfl
  | quoted q =>
      by_cases hquote : charOf b = '"'
      · rw [step_quote hquote] at hstep
        cases hstep
        obtain ⟨before, quote, es, inside, hopen, hbefore, hes, rfl, rfl⟩ := h
        have hlayout := hbefore.snoc (.text hopen hquote hes)
        rw [← Quoted.finish_foldl_feed] at hlayout
        rw [List.append_nil, List.append_assoc]
        exact hlayout
      by_cases hslash : charOf b = '\\'
      · rw [step_slash hslash] at hstep
        cases hstep
        exact ⟨b, hslash, Opens.more h b⟩
      by_cases hb : b < 0x20
      · exact nomatch ((if_neg (beq_iff_eq.not.2 hquote)).trans
          ((if_neg (beq_iff_eq.not.2 hslash)).trans (if_pos hb))).symm.trans hstep
      · rw [step_byte hquote hslash hb] at hstep
        cases hstep
        exact Opens.done h (.byte hquote hslash hb)
  | escape q =>
      obtain ⟨slash, hslash, hopens⟩ := h
      rcases step_escape_cases hstep with ⟨c, hc, rfl⟩ | ⟨hu, rfl⟩
      · exact hopens.done (.char hslash hc)
      · exact ⟨slash, b, [], hslash, hu, rfl, Nat.succ_pos 3, rfl, hopens.more b⟩
  | unit q value owed =>
      obtain ⟨slash, mark, ds, hslash, hmark, hlength, howed, hvalue, hopens⟩ := h
      obtain ⟨digit, hdigit, hs'⟩ := Option.map_eq_some_iff.1 hstep
      have hvalue' := hexValueFrom?_snoc hvalue hdigit
      rcases owed with _ | _ | owed
      · exact absurd howed (Nat.lt_irrefl 0)
      · cases hs'
        refine hopens.done (.unit hslash hmark ?_ hvalue')
        exact List.length_append.trans hlength
      · cases hs'
        refine ⟨slash, mark, ds ++ [b], hslash, hmark, ?_, Nat.succ_pos owed, hvalue',
          hopens.more b⟩
        rw [List.length_append, Nat.add_assoc, Nat.add_comm [b].length]
        exact hlength

theorem Scan.Tells.run (h : s.Tells bs) (hrun : s.run cs = some s') : s'.Tells (bs ++ cs) := by
  induction cs generalizing s bs with
  | nil =>
      cases hrun
      rw [List.append_nil]
      exact h
  | cons c cs ih =>
      rw [Scan.run] at hrun
      split at hrun
      · next next hstep =>
          rw [List.append_cons]
          exact ih (h.step hstep) hrun
      · exact nomatch hrun

/-- Whatever is scanned is a layout. -/
theorem layout_of_scan? {ts : List Token} (h : scan? bs = some ts) : Layout ts bs := by
  rw [scan?] at h
  obtain ⟨s, hrun, h⟩ := Option.bind_eq_some_iff.1 h
  obtain ⟨s₁, hsettle, h⟩ := Option.bind_eq_some_iff.1 h
  have hstart : Layout [] [] := .blank nofun
  have htells : s.Tells ([] ++ bs) := Scan.Tells.run (s := ⟨[], .between⟩) hstart hrun
  split at h
  · next hmode =>
      cases h
      exact htells.settle (Scan.ready_of_settle hsettle hmode)
  · exact nomatch h

end

end CloudReconciler.Json.Token
