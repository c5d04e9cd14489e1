import CloudReconciler.Json.Token
import CloudReconciler.Proofs.Text.Utf8
import Mathlib.Data.List.TakeWhile

/-! # Lexemes — how the tokens of a document are written

    The grammar of tokens, stated without the machine that reads them.  A
    numeral is a sign, a whole part, a fraction and an exponent; a string is
    a row of elements, which stand for bytes, characters or 16-bit units;
    everything else has one spelling.

    * `Numeral.Spells`: the numeral that characters spell;
    * `Element`, `denote`: the elements of a string, and the bytes they mean;
    * `Lexeme`: the bytes of one token;
    * `Layout`: tokens with blanks around them. -/

namespace CloudReconciler.Json.Token

/-! ## Numerals -/

/-- One digit or more. -/
def IsDigits (ds : List Char) : Prop := ds ≠ [] ∧ ∀ c ∈ ds, c.isDigit = true

/-- A whole part: digits of which the first is no zero, or a zero alone. -/
def IsWholePart (ds : List Char) : Prop := IsDigits ds ∧ (ds.head? = some '0' → ds.length = 1)

/-- A fraction, or nothing. -/
inductive SpellsFraction : Option (List Char) → List Char → Prop
  | absent : SpellsFraction none []
  | present {ds} : IsDigits ds → SpellsFraction (some ds) ('.' :: ds)

/-- The mark of an exponent. -/
def IsExponentMark (c : Char) : Prop := c = 'e' ∨ c = 'E'

/-- An exponent, or nothing; a plus may be left out. -/
inductive SpellsExponent : Option (Bool × List Char) → List Char → Prop
  | absent : SpellsExponent none []
  | plain {mark ds} : IsExponentMark mark → IsDigits ds →
      SpellsExponent (some (false, ds)) (mark :: ds)
  | above {mark ds} : IsExponentMark mark → IsDigits ds →
      SpellsExponent (some (false, ds)) (mark :: '+' :: ds)
  | below {mark ds} : IsExponentMark mark → IsDigits ds →
      SpellsExponent (some (true, ds)) (mark :: '-' :: ds)

/-- The sign of a numeral. -/
def signText (negative : Bool) : List Char := if negative then ['-'] else []

/-- The characters spell the numeral. -/
def Numeral.Spells (n : Numeral) (cs : List Char) : Prop :=
  IsWholePart n.whole ∧ ∃ fraction exponent, SpellsFraction n.fraction fraction ∧
    SpellsExponent n.exponent exponent ∧
    cs = signText n.negative ++ (n.whole ++ (fraction ++ exponent))

section

variable {ds rest cs : List Char}

/-- The characters do not start with a digit. -/
def NoDigit (cs : List Char) : Prop := ∀ c ∈ cs.head?, c.isDigit = false

theorem digits_append (hds : ∀ c ∈ ds, c.isDigit = true) (hrest : NoDigit rest) :
    digits (ds ++ rest) = (ds, rest) := by
  induction ds with
  | nil =>
      cases rest with
      | nil => rfl
      | cons c rest =>
          have hc : ¬ c.isDigit = true := Bool.not_eq_true _ ▸ hrest c rfl
          rw [digits, List.nil_append, List.takeWhile_cons_of_neg hc, List.dropWhile_cons_of_neg hc]
  | cons d ds ih =>
      have hd := hds d (List.mem_cons_self ..)
      have ih := ih fun c hc => hds c (List.mem_cons_of_mem _ hc)
      rw [digits] at ih ⊢
      rw [List.cons_append, List.takeWhile_cons_of_pos hd, List.dropWhile_cons_of_pos hd]
      obtain ⟨htake, hdrop⟩ := Prod.mk.inj ih
      rw [htake, hdrop]

theorem digits_spec (cs : List Char) :
    cs = (digits cs).1 ++ (digits cs).2 ∧ (∀ c ∈ (digits cs).1, c.isDigit = true) ∧
      NoDigit (digits cs).2 := by
  refine ⟨List.takeWhile_append_dropWhile.symm, fun c hc => List.mem_takeWhile_imp hc, ?_⟩
  intro c hc
  have h := List.head?_dropWhile_not Char.isDigit cs
  rw [show List.dropWhile Char.isDigit cs = (digits cs).2 from rfl, hc] at h
  simpa using h

/-- Digits that are read are digits, unless there are none. -/
theorem isDigits_digits (h : (digits cs).1.isEmpty = false) : IsDigits (digits cs).1 :=
  ⟨List.isEmpty_eq_false_iff.1 h, (digits_spec cs).2.1⟩

/-- The sign at the start. -/
def sign (cs : List Char) : Bool × List Char :=
  match cs with
  | '-' :: rest => (true, rest)
  | cs => (false, cs)

/-- The fraction at the start, if there is one. -/
def fraction? (cs : List Char) : Option (Option (List Char) × List Char) :=
  match cs with
  | '.' :: rest =>
      if (digits rest).1.isEmpty then none else some (some (digits rest).1, (digits rest).2)
  | cs => some (none, cs)

/-- The sign of an exponent. -/
def exponentSign (cs : List Char) : Bool × List Char :=
  match cs with
  | '-' :: rest => (true, rest)
  | '+' :: rest => (false, rest)
  | cs => (false, cs)

/-- The exponent that the characters are, if there are any. -/
def exponent? (cs : List Char) : Option (Option (Bool × List Char)) :=
  match cs with
  | [] => some none
  | mark :: rest =>
      if mark == 'e' || mark == 'E' then
        if (digits (exponentSign rest).2).1.isEmpty ||
            !(digits (exponentSign rest).2).2.isEmpty then none
        else some (some ((exponentSign rest).1, (digits (exponentSign rest).2).1))
      else none

/-- The numeral of a sign, a whole part and what comes after them. -/
def numeralFrom? (negative : Bool) (whole : List Char)
    (f : Option (List Char) × List Char) : Option Numeral :=
  (exponent? f.2).map fun e => ⟨negative, whole, f.1, e⟩

theorem numeralFrom?_eq (negative : Bool) (whole : List Char) (fraction : Option (List Char))
    (s : List Char) :
    numeralFrom? negative whole (fraction, s) =
      match s with
      | [] => some ⟨negative, whole, fraction, none⟩
      | mark :: rest =>
          if mark == 'e' || mark == 'E' then
            if (digits (exponentSign rest).2).1.isEmpty ||
                !(digits (exponentSign rest).2).2.isEmpty then none
            else some ⟨negative, whole, fraction,
              some ((exponentSign rest).1, (digits (exponentSign rest).2).1)⟩
          else none := by
  cases s with
  | nil => rfl
  | cons mark rest =>
      show Option.map _ (exponent? (mark :: rest)) = if _ then (if _ then _ else _) else _
      rw [exponent?]
      split_ifs
      all_goals rfl

theorem fraction?_of_ne {s : List Char} (h : s.head? ≠ some '.') :
    fraction? s = some (none, s) := by
  rw [fraction?]
  rintro rest rfl
  exact h rfl

/-- A numeral is read part by part. -/
theorem numeral?_eq {negative : Bool} {whole s : List Char} (hsign : sign cs = (negative, rest))
    (hwhole : digits rest = (whole, s)) :
    numeral? cs =
      if whole.isEmpty || (whole.head? == some '0' && whole.length ≠ 1) then none
      else (fraction? s).bind (numeralFrom? negative whole) := by
  have hsplit : numeral? cs =
      if (digits (sign cs).2).1.isEmpty ||
          ((digits (sign cs).2).1.head? == some '0' && (digits (sign cs).2).1.length ≠ 1) then none
      else match (digits (sign cs).2).2 with
        | '.' :: rest =>
            if (digits rest).1.isEmpty then none
            else numeralFrom? (sign cs).1 (digits (sign cs).2).1
              (some (digits rest).1, (digits rest).2)
        | s => numeralFrom? (sign cs).1 (digits (sign cs).2).1 (none, s) := by
    simp only [numeralFrom?_eq]
    rfl
  rw [hsplit, hsign, hwhole]
  refine if_congr Iff.rfl rfl ?_
  dsimp only
  split
  · rw [fraction?]
    split
    all_goals rfl
  · next h =>
      rw [fraction?_of_ne]
      · rfl
      · intro hs
        obtain ⟨t, rfl⟩ := List.head?_eq_some_iff.1 hs
        exact h t rfl

/-! ### Parts of a numeral -/

theorem sign_signText (negative : Bool) (hcs : cs.head? ≠ some '-') :
    sign (signText negative ++ cs) = (negative, cs) := by
  cases negative with
  | true => rfl
  | false =>
      show sign cs = _
      rw [sign]
      rintro rest rfl
      exact hcs rfl

theorem eq_signText_sign (cs : List Char) : cs = signText (sign cs).1 ++ (sign cs).2 := by
  unfold sign
  split
  all_goals rfl

/-- A fraction is read up to what follows, which is no digit after a fraction, and no point where
    there is none. -/
theorem fraction?_append {f : Option (List Char)} (h : SpellsFraction f cs)
    (hpoint : rest.head? ≠ some '.') (hdigit : NoDigit rest) :
    fraction? (cs ++ rest) = some (f, rest) := by
  cases h with
  | absent => exact fraction?_of_ne hpoint
  | present hds =>
      rw [List.cons_append, fraction?, digits_append hds.2 hdigit,
        if_neg (by rw [List.isEmpty_iff]; exact hds.1)]

theorem eq_append_of_fraction? {f : Option (List Char)} (h : fraction? cs = some (f, rest)) :
    ∃ text, SpellsFraction f text ∧ cs = text ++ rest := by
  unfold fraction? at h
  split at h
  · next tail =>
      split at h
      · exact nomatch h
      · next hne =>
          cases h
          exact ⟨_, .present (isDigits_digits (Bool.not_eq_true _ ▸ hne)),
            congrArg ('.' :: ·) (digits_spec tail).1⟩
  · cases h
    exact ⟨[], .absent, rfl⟩

theorem eq_exponentSign (cs : List Char) :
    cs = (exponentSign cs).2 ∧ (exponentSign cs).1 = false ∨
      ((exponentSign cs).1 = false ∧ cs = '+' :: (exponentSign cs).2) ∨
      ((exponentSign cs).1 = true ∧ cs = '-' :: (exponentSign cs).2) := by
  unfold exponentSign
  split
  · exact .inr (.inr ⟨rfl, rfl⟩)
  · exact .inr (.inl ⟨rfl, rfl⟩)
  · exact .inl ⟨rfl, rfl⟩

theorem digits_of_isDigits (h : IsDigits ds) : digits ds = (ds, []) := by
  have hnil : NoDigit [] := fun c hc => nomatch hc
  have he := digits_append h.2 hnil
  rwa [List.append_nil] at he

theorem isExponentMark_iff {mark : Char} :
    (mark == 'e' || mark == 'E') = true ↔ IsExponentMark mark := by
  rw [Bool.or_eq_true, beq_iff_eq, beq_iff_eq, IsExponentMark]

/-- Digits after the mark and the sign of an exponent are read as one. -/
theorem exponent?_of_sign {mark : Char} {below : Bool} (hm : IsExponentMark mark)
    (hsign : exponentSign rest = (below, ds)) (hds : IsDigits ds) :
    exponent? (mark :: rest) = some (some (below, ds)) := by
  have hne : ¬ (ds.isEmpty || !([] : List Char).isEmpty) = true := by
    rw [Bool.or_eq_true, not_or, List.isEmpty_iff]
    exact ⟨hds.1, Bool.false_ne_true⟩
  rw [exponent?, if_pos (isExponentMark_iff.2 hm), hsign, digits_of_isDigits hds, if_neg hne]

/-- An exponent is read from exactly its spellings. -/
theorem exponent?_eq_some_iff {e : Option (Bool × List Char)} :
    exponent? cs = some e ↔ SpellsExponent e cs := by
  constructor
  · intro h
    cases cs with
    | nil =>
        cases h
        exact .absent
    | cons mark rest =>
        rw [exponent?] at h
        split at h
        · next hm =>
            rw [isExponentMark_iff] at hm
            split at h
            · exact nomatch h
            · next hdigits =>
                rw [Bool.or_eq_true, not_or, Bool.not_eq_true, Bool.not_eq_true, Bool.not_eq_false',
                  List.isEmpty_iff] at hdigits
                cases h
                have hds := isDigits_digits hdigits.1
                have hrest := (digits_spec (exponentSign rest).2).1
                rw [hdigits.2, List.append_nil] at hrest
                rw [← hrest] at hds ⊢
                rcases eq_exponentSign rest with ⟨he, hbelow⟩ | ⟨hbelow, he⟩ | ⟨hbelow, he⟩
                · rw [hbelow, ← he]
                  exact .plain hm (he ▸ hds)
                · rw [hbelow, he]
                  exact .above hm hds
                · rw [hbelow, he]
                  exact .below hm hds
        · exact nomatch h
  · intro h
    cases h with
    | absent => rfl
    | plain hm hds =>
        refine exponent?_of_sign hm ?_ hds
        rw [exponentSign]
        · rintro rest rfl
          exact absurd (hds.2 '-' (List.mem_cons_self ..)) (by decide)
        · rintro rest rfl
          exact absurd (hds.2 '+' (List.mem_cons_self ..)) (by decide)
    | above hm hds => exact exponent?_of_sign hm rfl hds
    | below hm hds => exact exponent?_of_sign hm rfl hds

/-- What an exponent starts with. -/
theorem SpellsExponent.head?_spec {e : Option (Bool × List Char)} (h : SpellsExponent e cs) :
    cs.head? ≠ some '.' ∧ NoDigit cs := by
  have hmark : ∀ {mark : Char}, IsExponentMark mark → ∀ tail : List Char,
      (mark :: tail).head? ≠ some '.' ∧ NoDigit (mark :: tail) := by
    rintro mark (rfl | rfl) tail
    all_goals
      refine ⟨fun hc => absurd (Option.some.inj hc) (by decide), fun c hc => ?_⟩
      cases hc
      rfl
  cases h with
  | absent => exact ⟨nofun, nofun⟩
  | plain hm _ | above hm _ | below hm _ => exact hmark hm _

theorem SpellsFraction.noDigit {f : Option (List Char)} (h : SpellsFraction f cs)
    (hrest : NoDigit rest) : NoDigit (cs ++ rest) := by
  cases h with
  | absent => exact hrest
  | present _ => exact fun c hc => by cases hc; rfl

/-- A whole part passes the check of its zeros. -/
theorem isWholePart_iff :
    IsWholePart ds ↔ (∀ c ∈ ds, c.isDigit = true) ∧
      ¬ (ds.isEmpty || (ds.head? == some '0' && ds.length ≠ 1)) = true := by
  rw [IsWholePart, IsDigits, Bool.or_eq_true, not_or, List.isEmpty_iff, Bool.and_eq_true,
    beq_iff_eq, decide_eq_true_iff, not_and, not_not]
  exact ⟨fun h => ⟨h.1.2, h.1.1, h.2⟩, fun h => ⟨⟨h.2.1, h.1⟩, h.2.2⟩⟩

/-- Characters spell a numeral exactly when they are read as it. -/
theorem numeral?_eq_some_iff {n : Numeral} : numeral? cs = some n ↔ n.Spells cs := by
  constructor
  · intro h
    have hsign : sign cs = ((sign cs).1, (sign cs).2) := rfl
    have hdigits : digits (sign cs).2 = ((digits (sign cs).2).1, (digits (sign cs).2).2) := rfl
    rw [numeral?_eq hsign hdigits] at h
    split at h
    · exact nomatch h
    · next hwhole =>
        obtain ⟨⟨f, s⟩, hf, hrest⟩ := Option.bind_eq_some_iff.1 h
        obtain ⟨e, he, rfl⟩ := Option.map_eq_some_iff.1 hrest
        obtain ⟨text, htext, hs⟩ := eq_append_of_fraction? hf
        refine ⟨isWholePart_iff.2 ⟨(digits_spec _).2.1, hwhole⟩, text, s, htext,
          exponent?_eq_some_iff.1 he, ?_⟩
        rw [← hs, ← (digits_spec (sign cs).2).1]
        exact eq_signText_sign cs
  · rintro ⟨hwhole, fraction, exponent, hfraction, hexponent, rfl⟩
    obtain ⟨hpoint, hdigit⟩ := hexponent.head?_spec
    have hsign : (n.whole ++ (fraction ++ exponent)).head? ≠ some '-' := by
      obtain ⟨d, ds, hds⟩ := List.exists_cons_of_ne_nil hwhole.1.1
      rw [hds]
      intro hd
      cases hd
      exact absurd (hwhole.1.2 '-' (hds ▸ List.mem_cons_self ..)) (by decide)
    rw [numeral?_eq (sign_signText n.negative hsign)
        (digits_append hwhole.1.2 (hfraction.noDigit hdigit)),
      if_neg (isWholePart_iff.1 hwhole).2, fraction?_append hfraction hpoint hdigit,
      Option.bind_some, numeralFrom?, exponent?_eq_some_iff.2 hexponent]
    rfl

/-- The characters of a numeral are those that the machine takes for one. -/
theorem Numeral.Spells.isNumeralChar {n : Numeral} (h : n.Spells cs) :
    ∀ c ∈ cs, isNumeralChar c = true := by
  have hdigits : ∀ ds : List Char, (∀ c ∈ ds, c.isDigit = true) →
      ∀ c ∈ ds, Token.isNumeralChar c = true := by
    intro ds hds c hc
    rw [Token.isNumeralChar, hds c hc]
    rfl
  obtain ⟨negative, whole, f, e⟩ := n
  obtain ⟨hwhole, fraction, exponent, hfraction, hexponent, rfl⟩ := h
  have hsign : ∀ c ∈ signText negative, Token.isNumeralChar c = true := by
    cases negative with
    | true => exact List.forall_mem_singleton.2 rfl
    | false => exact fun c hc => nomatch hc
  refine List.forall_mem_append.2 ⟨hsign, List.forall_mem_append.2
    ⟨hdigits _ hwhole.1.2, List.forall_mem_append.2 ⟨?_, ?_⟩⟩⟩
  · cases hfraction with
    | absent => exact fun c hc => nomatch hc
    | present hds => exact List.forall_mem_cons.2 ⟨rfl, hdigits _ hds.2⟩
  · have hmark : ∀ {mark : Char}, IsExponentMark mark → Token.isNumeralChar mark = true := by
      rintro mark (rfl | rfl)
      all_goals rfl
    cases hexponent with
    | absent => exact fun c hc => nomatch hc
    | plain hm hds => exact List.forall_mem_cons.2 ⟨hmark hm, hdigits _ hds.2⟩
    | above hm hds | below hm hds =>
        exact List.forall_mem_cons.2 ⟨hmark hm, List.forall_mem_cons.2 ⟨rfl, hdigits _ hds.2⟩⟩

/-- A numeral starts with a minus or a digit. -/
theorem Numeral.Spells.exists_cons {n : Numeral} (h : n.Spells cs) :
    ∃ c tail, cs = c :: tail ∧ (c == '-' || c.isDigit) = true := by
  obtain ⟨hwhole, fraction, exponent, -, -, rfl⟩ := h
  obtain ⟨d, ds, hds⟩ := List.exists_cons_of_ne_nil hwhole.1.1
  cases n.negative with
  | true => exact ⟨'-', _, rfl, rfl⟩
  | false =>
      refine ⟨d, ds ++ (fraction ++ exponent), by rw [hds]; rfl, ?_⟩
      rw [hwhole.1.2 d (hds ▸ List.mem_cons_self ..), Bool.or_true]

end

/-! ## Strings -/

/-- A part of a string. -/
inductive Element where
  /-- A byte that stands for itself. -/
  | byte (b : UInt8)
  /-- A character given by a short escape. -/
  | char (c : Char)
  /-- A 16-bit unit given by its hexadecimal digits. -/
  | unit (u : Nat)
  deriving DecidableEq, Repr

/-- The unit is the first one of a pair. -/
def IsHigh (u : Nat) : Prop := 0xD800 ≤ u ∧ u < 0xDC00

/-- The unit is the second one of a pair. -/
def IsLow (u : Nat) : Prop := 0xDC00 ≤ u ∧ u < 0xE000

instance (u : Nat) : Decidable (IsHigh u) := inferInstanceAs (Decidable (_ ∧ _))

instance (u : Nat) : Decidable (IsLow u) := inferInstanceAs (Decidable (_ ∧ _))

/-- The character of a pair of units. -/
def paired (high low : Nat) : Char :=
  Char.ofNat (0x10000 + (high - 0xD800) * 0x400 + (low - 0xDC00))

/-- The bytes that the elements of a string mean; units of pairs mean nothing alone. -/
def denote : List Element → Option (List UInt8)
  | [] => some []
  | .byte b :: es => (denote es).map (b :: ·)
  | .char c :: es => (denote es).map (Utf8.encodeChar c ++ ·)
  | .unit u :: es =>
      if IsLow u then none
      else if IsHigh u then
        match es with
        | .unit low :: rest =>
            if IsLow low then (denote rest).map (Utf8.encodeChar (paired u low) ++ ·) else none
        | _ => none
      else (denote es).map (Utf8.encodeChar (Char.ofNat u) ++ ·)

/-- The text of a string, if its elements mean one. -/
def textOf (es : List Element) : Option String := (denote es).bind Utf8.decode?

section

variable {u high low : Nat} {es : List Element}

theorem not_isLow_of_isHigh (h : IsHigh u) : ¬ IsLow u := fun h' =>
  absurd (Nat.lt_of_lt_of_le h.2 h'.1) (Nat.lt_irrefl u)

theorem denote_plain (h : ¬ IsHigh u) (h' : ¬ IsLow u) :
    denote (.unit u :: es) = (denote es).map (Utf8.encodeChar (Char.ofNat u) ++ ·) := by
  rw [denote.eq_def]
  dsimp only
  rw [if_neg h', if_neg h]

theorem denote_low (h : IsLow u) : denote (.unit u :: es) = none := by
  rw [denote.eq_def]
  dsimp only
  rw [if_pos h]

theorem denote_pair (h : IsHigh high) (h' : IsLow low) :
    denote (.unit high :: .unit low :: es) =
      (denote es).map (Utf8.encodeChar (paired high low) ++ ·) := by
  rw [denote.eq_def]
  dsimp only
  rw [if_neg (not_isLow_of_isHigh h), if_pos h, if_pos h']

/-- A first unit of a pair means nothing alone. -/
theorem denote_alone (h : IsHigh high) (hes : ∀ low ∈ es.head?, ∀ v, low = .unit v → ¬ IsLow v) :
    denote (.unit high :: es) = none := by
  rw [denote.eq_def]
  dsimp only
  rw [if_neg (not_isLow_of_isHigh h), if_pos h]
  split
  · exact if_neg (hes _ rfl _ rfl)
  · rfl

end

/-! ### The string being read -/

namespace Quoted

variable {q : Quoted} {bytes : List UInt8} {readable : Bool} {es : List Element} {e : Element}
  {high low : Nat}

/-- The next element of a string being read. -/
def feed (q : Quoted) : Element → Quoted
  | .byte b => q.byte b
  | .char c => q.char c
  | .unit u => q.unit u

/-- The unit that waits for the second one of its pair. -/
def pending (q : Quoted) : List Element := (q.high.map Element.unit).toList

/-- The text of a string of which a part has been read. -/
def outcome (q : Quoted) (es : List Element) : Option String :=
  if q.readable then
    (denote (q.pending ++ es)).bind fun bytes => Utf8.decode? (q.bytes.reverse ++ bytes)
  else none

theorem outcome_eq_none (h : denote (q.pending ++ es) = none) : q.outcome es = none := by
  rw [outcome, h]
  split
  all_goals rfl

/-- Bytes that have been read come before what is still to be read. -/
theorem outcome_append (new : List UInt8)
    (h : denote (q.pending ++ e :: es) = (denote es).map (new ++ ·)) :
    outcome ⟨new.reverse ++ q.bytes, none, q.readable⟩ es = q.outcome (e :: es) := by
  rw [outcome, outcome, h]
  refine if_congr Iff.rfl ?_ rfl
  show (denote es).bind _ = _
  cases denote es with
  | none => rfl
  | some rest =>
      show Utf8.decode? ((new.reverse ++ q.bytes).reverse ++ rest) =
        Utf8.decode? (q.bytes.reverse ++ (new ++ rest))
      rw [List.reverse_append, List.reverse_reverse, List.append_assoc]

theorem settle_of_none : settle ⟨bytes, none, readable⟩ = ⟨bytes, none, readable⟩ :=
  congrArg (Quoted.mk bytes none) (Bool.and_true readable)

theorem settle_of_some : settle ⟨bytes, some high, readable⟩ = ⟨bytes, none, false⟩ :=
  congrArg (Quoted.mk bytes none) (Bool.and_false readable)

/-- A unit that waits alone makes the string unreadable. -/
theorem outcome_eq_none_of_some (hhigh : IsHigh high) (he : ∀ v, e = .unit v → ¬ IsLow v) :
    outcome ⟨bytes, some high, readable⟩ (e :: es) = none := by
  refine outcome_eq_none (denote_alone hhigh fun low hlow => ?_)
  cases hlow
  exact he

/-- An element that is no second unit of a pair. -/
theorem outcome_settle (hq : ∀ h ∈ q.high, IsHigh h) (he : ∀ v, e = .unit v → ¬ IsLow v)
    (new : List UInt8) (h : denote (e :: es) = (denote es).map (new ++ ·)) :
    outcome ⟨new.reverse ++ q.settle.bytes, none, q.settle.readable⟩ es = q.outcome (e :: es) := by
  obtain ⟨bytes, high, readable⟩ := q
  cases high with
  | none =>
      rw [settle_of_none]
      exact outcome_append new h
  | some high =>
      rw [settle_of_some, outcome_eq_none_of_some (hq high rfl) he]
      exact if_neg Bool.false_ne_true

theorem unit_of_isLow_none (h : IsLow low) :
    unit ⟨bytes, none, readable⟩ low = ⟨bytes, none, false⟩ := if_pos h

theorem unit_of_isLow_some (h : IsLow low) :
    unit ⟨bytes, some high, readable⟩ low = char ⟨bytes, none, readable⟩ (paired high low) :=
  if_pos h

theorem unit_of_isHigh (h : IsHigh high) :
    q.unit high = ⟨q.settle.bytes, some high, q.settle.readable⟩ :=
  (if_neg (not_isLow_of_isHigh h)).trans (if_pos h)

theorem unit_plain {u : Nat} (h : ¬ IsHigh u) (h' : ¬ IsLow u) : q.unit u = q.char (Char.ofNat u) :=
  (if_neg h').trans (if_neg h)

/-- Elements can be read one after the other. -/
theorem outcome_feed (hq : ∀ h ∈ q.high, IsHigh h) (e : Element) :
    (q.feed e).outcome es = q.outcome (e :: es) := by
  cases e with
  | byte b => exact outcome_settle (e := .byte b) hq nofun [b] rfl
  | char c => exact outcome_settle (e := .char c) hq nofun (Utf8.encodeChar c) rfl
  | unit u =>
      obtain ⟨bytes, high, readable⟩ := q
      show (unit ⟨bytes, high, readable⟩ u).outcome es = _
      by_cases hlow : IsLow u
      · cases high with
        | none =>
            rw [unit_of_isLow_none hlow]
            refine Eq.trans (if_neg Bool.false_ne_true) (outcome_eq_none ?_).symm
            exact denote_low hlow
        | some high =>
            rw [unit_of_isLow_some hlow, char, settle_of_none]
            exact outcome_append (q := ⟨bytes, some high, readable⟩) _
              (denote_pair (hq high rfl) hlow)
      by_cases hhigh : IsHigh u
      · rw [unit_of_isHigh hhigh]
        cases high with
        | none =>
            rw [settle_of_none]
            rfl
        | some high =>
            rw [settle_of_some, outcome_eq_none_of_some (hq high rfl)]
            · exact if_neg Bool.false_ne_true
            · rintro v ⟨⟩
              exact hlow
      · rw [unit_plain hhigh hlow]
        refine outcome_settle hq ?_ _ (denote_plain hhigh hlow)
        rintro v ⟨⟩
        exact hlow

theorem isHigh_feed (hq : ∀ h ∈ q.high, IsHigh h) (e : Element) :
    ∀ h ∈ (q.feed e).high, IsHigh h := by
  cases e with
  | byte b | char c => exact fun h hh => nomatch hh
  | unit u =>
      show ∀ h ∈ (q.unit u).high, IsHigh h
      obtain ⟨bytes, high, readable⟩ := q
      by_cases hlow : IsLow u
      · cases high with
        | none =>
            rw [unit_of_isLow_none hlow]
            exact fun h hh => nomatch hh
        | some high =>
            rw [unit_of_isLow_some hlow]
            exact fun h hh => nomatch hh
      by_cases hhigh : IsHigh u
      · rw [unit_of_isHigh hhigh]
        rintro h ⟨⟩
        exact hhigh
      · rw [unit_plain hhigh hlow]
        exact fun h hh => nomatch hh

theorem finish_eq (hq : ∀ h ∈ q.high, IsHigh h) : q.finish = .text (q.outcome []) := by
  obtain ⟨bytes, high, readable⟩ := q
  cases high with
  | none =>
      rw [finish, settle_of_none, outcome]
      refine congrArg Token.text (if_congr Iff.rfl ?_ rfl)
      show _ = Utf8.decode? (bytes.reverse ++ [])
      rw [List.append_nil]
  | some high =>
      rw [finish, settle_of_some, outcome_eq_none]
      · rfl
      · exact denote_alone (hq high rfl) fun _ he => nomatch he

/-- The elements of a string make its text. -/
theorem finish_foldl_feed (es : List Element) :
    (es.foldl feed empty).finish = .text (textOf es) := by
  have hrun : ∀ q : Quoted, (∀ h ∈ q.high, IsHigh h) →
      (es.foldl feed q).finish = .text (q.outcome es) := by
    induction es with
    | nil => exact fun q hq => finish_eq hq
    | cons e es ih =>
        intro q hq
        rw [List.foldl_cons, ih _ (isHigh_feed hq e), outcome_feed hq]
  exact hrun empty nofun

end Quoted

/-! ## Lexemes -/

/-- The character that a byte is. -/
def charOf (b : UInt8) : Char := Char.ofNat b.toNat

/-- The characters that stand behind a backslash, with what they mean. -/
def shortEscapes : List (Char × Char) :=
  [('"', '"'), ('\\', '\\'), ('/', '/'), ('b', '\x08'), ('f', '\x0c'), ('n', '\n'), ('r', '\r'),
    ('t', '\t')]

/-- The number of hexadecimal digits, behind those that have been read. -/
def hexValueFrom? (value : Nat) (ds : List UInt8) : Option Nat :=
  ds.foldlM (fun value d => (hexValue? (charOf d)).map (value * 16 + ·)) value

/-- The bytes of an element. -/
inductive Element.Written : Element → List UInt8 → Prop
  | byte {b} : charOf b ≠ '"' → charOf b ≠ '\\' → ¬ b < 0x20 → Written (.byte b) [b]
  | char {slash mark c} : charOf slash = '\\' → (charOf mark, c) ∈ shortEscapes →
      Written (.char c) [slash, mark]
  | unit {slash mark ds u} : charOf slash = '\\' → charOf mark = 'u' → ds.length = 4 →
      hexValueFrom? 0 ds = some u → Written (.unit u) (slash :: mark :: ds)

/-- The bytes of elements. -/
inductive Elements : List Element → List UInt8 → Prop
  | nil : Elements [] []
  | cons {e es bs rest} : e.Written bs → Elements es rest → Elements (e :: es) (bs ++ rest)

/-- The tokens of one character. -/
def marks : List (Char × Token) :=
  [('[', .openArray), (']', .closeArray), ('\x7b', .openObject), ('\x7d', .closeObject),
    (':', .colon), (',', .comma)]

/-- The words. -/
def words : List (String × Token) :=
  [("null", .null), ("true", .bool true), ("false", .bool false)]

/-- The bytes of a token. -/
inductive Lexeme : Token → List UInt8 → Prop
  | mark {b t} : (charOf b, t) ∈ marks → Lexeme t [b]
  | word {w t bs} : (w, t) ∈ words → bs.map charOf = w.toList → Lexeme t bs
  | number {n : Numeral} {bs} : n.Spells (bs.map charOf) → Lexeme (.number (numberValue n)) bs
  | text {before after es bs} : charOf before = '"' → charOf after = '"' → Elements es bs →
      Lexeme (.text (textOf es)) (before :: (bs ++ [after]))

/-- Blanks between tokens. -/
def IsBlank (bs : List UInt8) : Prop := ∀ b ∈ bs, charOf b ∈ [' ', '\t', '\n', '\r']

/-- Tokens in a row, with blanks before, between and behind them. -/
inductive Layout : List Token → List UInt8 → Prop
  | blank {bs} : IsBlank bs → Layout [] bs
  | next {before bs rest t ts} : IsBlank before → Lexeme t bs → Layout ts rest →
      Layout (t :: ts) (before ++ (bs ++ rest))

/-- The token has no end of its own. -/
def isRun : Token → Bool
  | .null | .bool _ | .number _ => true
  | _ => false

/-- No two tokens without an end of their own stand side by side. -/
def Separated : List Token → Prop
  | [] => True
  | t :: ts => (∀ t' ∈ ts.head?, t.isRun = true → t'.isRun = false) ∧ Separated ts

end CloudReconciler.Json.Token
