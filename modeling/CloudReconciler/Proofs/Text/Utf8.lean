import CloudReconciler.Text.Utf8
import Mathlib.Algebra.Group.Nat.Defs
import Mathlib.Data.List.Induction
import Mathlib.Tactic.Common

/-! # UTF-8 — a text has one spelling

    The machine reads exactly the bytes that are written.  Writing goes
    through the sizes of a character; reading keeps what the character begun
    stands for: `Partial.IsBegunBy` gives the code points that the bytes so
    far leave open, and for each of them the bytes still owed. -/

namespace CloudReconciler.Utf8

/-! ## Bytes of a character -/

/-- A continuation byte with six bits of the code point. -/
def continuation (n : Nat) : UInt8 := UInt8.ofNat (0x80 + n % 0x40)

theorem toNat_continuation (n : Nat) : (continuation n).toNat = 0x80 + n % 0x40 := by
  rw [continuation, UInt8.toNat_ofNat']
  omega

theorem toNat_ofNat_of_lt {n : Nat} (h : n < 0x100) : (UInt8.ofNat n).toNat = n := by
  rw [UInt8.toNat_ofNat']
  omega

/-- The last bytes of a character of that code point. -/
def continuations (n : Nat) : Nat → List UInt8
  | 0 => []
  | owed + 1 => continuation (n / 0x40 ^ owed) :: continuations n owed

theorem continuations_one (n : Nat) : continuations n 1 = [continuation n] := by
  rw [continuations, continuations, Nat.pow_zero, Nat.div_one]

section

variable {c : Char}

theorem encodeChar_eq (c : Char) :
    encodeChar c =
      if c.toNat < 0x80 then [UInt8.ofNat c.toNat]
      else if c.toNat < 0x800 then UInt8.ofNat (0xC0 + c.toNat / 0x40) :: continuations c.toNat 1
      else if c.toNat < 0x10000 then
        UInt8.ofNat (0xE0 + c.toNat / 0x1000) :: continuations c.toNat 2
      else UInt8.ofNat (0xF0 + c.toNat / 0x40000) :: continuations c.toNat 3 := by
  have h0 : Nat.pow 2 0 = 1 := rfl
  have h6 : Nat.pow 2 6 = 0x40 := rfl
  have h12 : Nat.pow 2 12 = 0x1000 := rfl
  simp only [encodeChar, h0, h6, h12, continuations, continuation, Nat.pow_zero, Nat.pow_one,
    Nat.div_one, Nat.reducePow]

theorem encodeChar_one (h : c.toNat < 0x80) : encodeChar c = [UInt8.ofNat c.toNat] :=
  (encodeChar_eq c).trans (if_pos h)

theorem encodeChar_two (h : 0x80 ≤ c.toNat) (h' : c.toNat < 0x800) :
    encodeChar c = UInt8.ofNat (0xC0 + c.toNat / 0x40) :: continuations c.toNat 1 := by
  rw [encodeChar_eq, if_neg (by omega), if_pos h']

theorem encodeChar_three (h : 0x800 ≤ c.toNat) (h' : c.toNat < 0x10000) :
    encodeChar c = UInt8.ofNat (0xE0 + c.toNat / 0x1000) :: continuations c.toNat 2 := by
  rw [encodeChar_eq, if_neg (by omega), if_neg (by omega), if_pos h']

theorem encodeChar_four (h : 0x10000 ≤ c.toNat) :
    encodeChar c = UInt8.ofNat (0xF0 + c.toNat / 0x40000) :: continuations c.toNat 3 := by
  rw [encodeChar_eq, if_neg (by omega), if_neg (by omega), if_neg (by omega)]

theorem toNat_ofNat_of_isValidChar {n : Nat} (h : n.isValidChar) : (Char.ofNat n).toNat = n := by
  rw [Char.ofNat, dif_pos h]
  rfl

/-- Code points of characters stop short of the surrogates, or begin after them. -/
theorem toNat_valid (c : Char) :
    c.toNat < 0xD800 ∨ 0xDFFF < c.toNat ∧ c.toNat < 0x110000 := c.valid

end

/-! ## Characters begun -/

namespace Partial

variable {p : Partial} {b : UInt8} {n : Nat} {bytes : List UInt8}

/-- The next byte is a continuation byte. -/
structure IsProper (p : Partial) : Prop where
  owes : 0 < p.owed
  least : 0x80 ≤ p.least ∧ p.least ≤ 0xBF
  greatest : 0x80 ≤ p.greatest ∧ p.greatest ≤ 0xBF

/-- The code point is left open by the character begun. -/
def Open (p : Partial) (n : Nat) : Prop :=
  p.value * 0x40 + p.least % 0x40 ≤ n / 0x40 ^ (p.owed - 1) ∧
    n / 0x40 ^ (p.owed - 1) ≤ p.value * 0x40 + p.greatest % 0x40

/-- The bytes begin a character: every code point that is left open is one of a character that is
    spelled by them and its last bytes. -/
structure IsBegunBy (p : Partial) (bytes : List UInt8) : Prop extends p.IsProper where
  spells : ∀ n, p.Open n → n.isValidChar ∧
    encodeChar (Char.ofNat n) = bytes ++ continuations n p.owed

section

variable {value owed least greatest : Nat}

/-- A character of which any continuation byte may be the next one. -/
theorem isProper_next (value owed : Nat) : IsProper ⟨value, owed + 1, 0x80, 0xBF⟩ where
  owes := Nat.succ_pos owed
  least := ⟨Nat.le_refl _, Nat.le_add_right 0x80 0x3F⟩
  greatest := ⟨Nat.le_add_right 0x80 0x3F, Nat.le_refl _⟩

/-- What is left open once the first of the last bytes is known. -/
theorem open_next_iff :
    Open ⟨value, owed + 1, 0x80, 0xBF⟩ n ↔ n / 0x40 ^ (owed + 1) = value := by
  show value * 0x40 + 0x80 % 0x40 ≤ n / 0x40 ^ owed ∧
    n / 0x40 ^ owed ≤ value * 0x40 + 0xBF % 0x40 ↔ _
  rw [Nat.pow_succ, ← Nat.div_div_eq_div_mul]
  omega

theorem open_one :
    Open ⟨value, 1, least, greatest⟩ n ↔
      value * 0x40 + least % 0x40 ≤ n ∧ n ≤ value * 0x40 + greatest % 0x40 := by
  show _ ≤ n / 1 ∧ n / 1 ≤ _ ↔ _
  rw [Nat.div_one]

theorem open_two :
    Open ⟨value, 2, least, greatest⟩ n ↔
      value * 0x40 + least % 0x40 ≤ n / 0x40 ∧ n / 0x40 ≤ value * 0x40 + greatest % 0x40 :=
  .rfl

theorem open_three :
    Open ⟨value, 3, least, greatest⟩ n ↔
      value * 0x40 + least % 0x40 ≤ n / 0x1000 ∧ n / 0x1000 ≤ value * 0x40 + greatest % 0x40 :=
  .rfl

/-- A byte within the bounds is the continuation byte of the bits that it adds. -/
theorem continuation_eq (h : 0x80 ≤ b.toNat) (h' : b.toNat ≤ 0xBF) :
    continuation (value * 0x40 + b.toNat % 0x40) = b := by
  refine UInt8.toNat_inj.1 ?_
  rw [toNat_continuation]
  omega

/-- The next byte but the last one. -/
theorem IsBegunBy.more (h : IsBegunBy ⟨value, owed + 2, least, greatest⟩ bytes)
    (hb : least ≤ b.toNat) (hb' : b.toNat ≤ greatest) :
    IsBegunBy ⟨value * 0x40 + b.toNat % 0x40, owed + 1, 0x80, 0xBF⟩ (bytes ++ [b]) := by
  obtain ⟨⟨-, hleast, hgreatest⟩, hspells⟩ := h
  dsimp only at hleast hgreatest
  refine ⟨isProper_next _ owed, fun n hn => ?_⟩
  have hvalue := open_next_iff.1 hn
  obtain ⟨hvalid, he⟩ := hspells n <| by
    show _ ≤ n / 0x40 ^ (owed + 1) ∧ n / 0x40 ^ (owed + 1) ≤ _
    rw [hvalue]
    dsimp only
    omega
  refine ⟨hvalid, he.trans ?_⟩
  show bytes ++ continuation (n / 0x40 ^ (owed + 1)) :: continuations n (owed + 1) = _
  rw [hvalue, continuation_eq (Nat.le_trans hleast.1 hb) (Nat.le_trans hb' hgreatest.2)]
  exact List.append_cons ..

/-- The last byte. -/
theorem IsBegunBy.last (h : IsBegunBy ⟨value, 1, least, greatest⟩ bytes) (hb : least ≤ b.toNat)
    (hb' : b.toNat ≤ greatest) :
    encodeChar (Char.ofNat (value * 0x40 + b.toNat % 0x40)) = bytes ++ [b] := by
  obtain ⟨⟨-, hleast, hgreatest⟩, hspells⟩ := h
  dsimp only at hleast hgreatest
  obtain ⟨-, he⟩ := hspells (value * 0x40 + b.toNat % 0x40) (open_one.2 (by omega))
  rw [he, continuations_one,
    continuation_eq (Nat.le_trans hleast.1 hb) (Nat.le_trans hb' hgreatest.2)]

end

end Partial

namespace Reading

variable {read : List (Option Char)} {p : Partial} {b : Nat} {byte : UInt8} {n : Nat}

/-- The first byte of a character of two bytes. -/
theorem first_two (read : List (Option Char)) (h : 0xC2 ≤ b) (h' : b < 0xE0) :
    first read b = ⟨read, some ⟨b - 0xC0, 1, 0x80, 0xBF⟩⟩ := by
  rw [first, if_neg (by omega), if_neg (by omega), if_pos h']

/-- The first byte of a character of three bytes; some of them leave open fewer code points. -/
theorem first_three (read : List (Option Char)) (h : 0xE0 ≤ b) (h' : b < 0xF0) :
    ∃ least greatest, first read b = ⟨read, some ⟨b - 0xE0, 2, least, greatest⟩⟩ ∧
      (0x80 ≤ least ∧ least ≤ 0xBF) ∧ (0x80 ≤ greatest ∧ greatest ≤ 0xBF) ∧
      ∀ n, Partial.Open ⟨b - 0xE0, 2, least, greatest⟩ n ↔
        n / 0x1000 = b - 0xE0 ∧ 0x800 ≤ n ∧ ¬ (0xD800 ≤ n ∧ n ≤ 0xDFFF) := by
  rw [first, if_neg (by omega), if_neg (by omega), if_neg (by omega)]
  by_cases hlow : b = 0xE0
  · subst hlow
    refine ⟨0xA0, 0xBF, if_pos rfl, by omega, by omega, fun n => ?_⟩
    rw [Partial.open_two]
    omega
  · rw [if_neg hlow]
    by_cases hsurrogate : b = 0xED
    · subst hsurrogate
      refine ⟨0x80, 0x9F, if_pos rfl, by omega, by omega, fun n => ?_⟩
      rw [Partial.open_two]
      omega
    · rw [if_neg hsurrogate, if_pos h']
      refine ⟨0x80, 0xBF, rfl, by omega, by omega, fun n => ?_⟩
      rw [Partial.open_two]
      omega

/-- The first byte of a character of four bytes; some of them leave open fewer code points. -/
theorem first_four (read : List (Option Char)) (h : 0xF0 ≤ b) (h' : b ≤ 0xF4) :
    ∃ least greatest, first read b = ⟨read, some ⟨b - 0xF0, 3, least, greatest⟩⟩ ∧
      (0x80 ≤ least ∧ least ≤ 0xBF) ∧ (0x80 ≤ greatest ∧ greatest ≤ 0xBF) ∧
      ∀ n, Partial.Open ⟨b - 0xF0, 3, least, greatest⟩ n ↔
        n / 0x40000 = b - 0xF0 ∧ 0x10000 ≤ n ∧ n < 0x110000 := by
  rw [first, if_neg (by omega), if_neg (by omega), if_neg (by omega), if_neg (by omega),
    if_neg (by omega), if_neg (by omega)]
  by_cases hlow : b = 0xF0
  · subst hlow
    refine ⟨0x90, 0xBF, if_pos rfl, by omega, by omega, fun n => ?_⟩
    rw [Partial.open_three]
    omega
  · rw [if_neg hlow]
    by_cases hmiddle : b < 0xF4
    · rw [if_pos hmiddle]
      refine ⟨0x80, 0xBF, rfl, by omega, by omega, fun n => ?_⟩
      rw [Partial.open_three]
      omega
    · obtain rfl : b = 0xF4 := by omega
      refine ⟨0x80, 0x8F, rfl, by omega, by omega, fun n => ?_⟩
      rw [Partial.open_three]
      omega

/-- The last byte of a character. -/
theorem step_last {value least greatest : Nat} (h : least ≤ byte.toNat ∧ byte.toNat ≤ greatest) :
    step ⟨read, some ⟨value, 1, least, greatest⟩⟩ byte =
      ⟨some (Char.ofNat (value * 0x40 + byte.toNat % 0x40)) :: read, none⟩ :=
  if_pos h

/-- A byte of a character that owes more. -/
theorem step_more {value owed least greatest : Nat}
    (h : least ≤ byte.toNat ∧ byte.toNat ≤ greatest) :
    step ⟨read, some ⟨value, owed + 2, least, greatest⟩⟩ byte =
      ⟨read, some ⟨value * 0x40 + byte.toNat % 0x40, owed + 1, 0x80, 0xBF⟩⟩ :=
  if_pos h

/-- A byte that does not continue the character leaves a gap. -/
theorem step_gap (h : ¬ (p.least ≤ byte.toNat ∧ byte.toNat ≤ p.greatest)) :
    step ⟨read, some p⟩ byte = first (none :: read) byte.toNat :=
  if_neg h

/-! ## Reading what is written -/

/-- The last bytes of a character whose code point is left open. -/
theorem foldl_step_continuations {value owed least greatest : Nat}
    (hp : Partial.IsProper ⟨value, owed + 1, least, greatest⟩)
    (hn : Partial.Open ⟨value, owed + 1, least, greatest⟩ n) :
    (continuations n (owed + 1)).foldl step ⟨read, some ⟨value, owed + 1, least, greatest⟩⟩ =
      ⟨some (Char.ofNat n) :: read, none⟩ := by
  obtain ⟨-, hleast, hgreatest⟩ := hp
  dsimp only at hleast hgreatest
  induction owed generalizing value least greatest with
  | zero =>
      rw [Partial.open_one] at hn
      have hin : least ≤ (continuation n).toNat ∧ (continuation n).toNat ≤ greatest := by
        rw [toNat_continuation]
        omega
      have hvalue : value * 0x40 + (continuation n).toNat % 0x40 = n := by
        rw [toNat_continuation]
        omega
      rw [Nat.zero_add, continuations_one, List.foldl_cons, List.foldl_nil, step_last hin, hvalue]
  | succ owed ih =>
      obtain ⟨hlow, hhigh⟩ := hn
      show (continuations n (owed + 1)).foldl step
        (step _ (continuation (n / 0x40 ^ (owed + 1)))) = _
      change _ ≤ n / 0x40 ^ (owed + 1) at hlow
      change n / 0x40 ^ (owed + 1) ≤ _ at hhigh
      dsimp only at hlow hhigh
      generalize hm : n / 0x40 ^ (owed + 1) = m at hlow hhigh
      have hin : least ≤ (continuation m).toNat ∧ (continuation m).toNat ≤ greatest := by
        rw [toNat_continuation]
        omega
      have hvalue : value * 0x40 + (continuation m).toNat % 0x40 = m := by
        rw [toNat_continuation]
        omega
      rw [step_more hin, hvalue]
      exact ih (Partial.open_next_iff.2 hm) (by decide) (by decide)

/-- Between characters, the bytes of a character are read as the character. -/
theorem foldl_step_encodeChar (read : List (Option Char)) (c : Char) :
    (encodeChar c).foldl step ⟨read, none⟩ = ⟨some c :: read, none⟩ := by
  have hvalid := toNat_valid c
  have hc : Char.ofNat c.toNat = c := Char.ofNat_toNat c
  by_cases hone : c.toNat < 0x80
  · rw [encodeChar_one hone, List.foldl_cons, List.foldl_nil]
    show first read (UInt8.ofNat c.toNat).toNat = _
    rw [toNat_ofNat_of_lt (by omega), first, if_pos hone, hc]
  by_cases htwo : c.toNat < 0x800
  · rw [encodeChar_two (by omega) htwo, List.foldl_cons]
    have hfirst := first_two (b := 0xC0 + c.toNat / 0x40) read (by omega) (by omega)
    show List.foldl step (first read (UInt8.ofNat _).toNat) _ = _
    rw [toNat_ofNat_of_lt (by omega), hfirst,
      foldl_step_continuations (Partial.isProper_next _ 0) (Partial.open_one.2 (by omega)), hc]
  by_cases hthree : c.toNat < 0x10000
  · rw [encodeChar_three (by omega) hthree, List.foldl_cons]
    obtain ⟨least, greatest, hfirst, hleast, hgreatest, hopen⟩ :=
      first_three (b := 0xE0 + c.toNat / 0x1000) read (by omega) (by omega)
    show List.foldl step (first read (UInt8.ofNat _).toNat) _ = _
    rw [toNat_ofNat_of_lt (by omega), hfirst,
      foldl_step_continuations ⟨Nat.succ_pos _, hleast, hgreatest⟩ ((hopen _).2 (by omega)), hc]
  · rw [encodeChar_four (by omega), List.foldl_cons]
    obtain ⟨least, greatest, hfirst, hleast, hgreatest, hopen⟩ :=
      first_four (b := 0xF0 + c.toNat / 0x40000) read (by omega) (by omega)
    show List.foldl step (first read (UInt8.ofNat _).toNat) _ = _
    rw [toNat_ofNat_of_lt (by omega), hfirst,
      foldl_step_continuations ⟨Nat.succ_pos _, hleast, hgreatest⟩ ((hopen _).2 (by omega)), hc]

/-- The characters of a text, between characters. -/
theorem foldl_step_flatMap (read : List (Option Char)) (cs : List Char) :
    (cs.flatMap encodeChar).foldl step ⟨read, none⟩ = ⟨(cs.map some).reverse ++ read, none⟩ := by
  induction cs generalizing read with
  | nil => rfl
  | cons c cs ih =>
      rw [List.flatMap_cons, List.foldl_append, foldl_step_encodeChar, ih, List.map_cons,
        List.reverse_cons, List.append_assoc]
      rfl

/-! ## Nothing else is read -/

/-- What has been read of the bytes: there is a gap, or they are those of the characters read and
    of the one that is begun. -/
def Tells (r : Reading) (bytes : List UInt8) : Prop :=
  none ∈ r.read ∨ ∃ (cs : List Char) (begun : List UInt8), r.read = (cs.map some).reverse ∧
    bytes = cs.flatMap encodeChar ++ begun ∧
    match r.begun with
    | none => begun = []
    | some p => p.IsBegunBy begun

/-- A first byte is a character, or begins one, or leaves a gap. -/
theorem first_cases (read : List (Option Char)) (byte : UInt8) :
    (∃ c, first read byte.toNat = ⟨some c :: read, none⟩ ∧ encodeChar c = [byte]) ∨
    (∃ p, first read byte.toNat = ⟨read, some p⟩ ∧ p.IsBegunBy [byte]) ∨
    first read byte.toNat = ⟨none :: read, none⟩ := by
  have hbyte := byte.toNat_lt
  have hvalid : ∀ n, n < 0xD800 ∨ 0xDFFF < n ∧ n < 0x110000 → n.isValidChar := fun n hn => hn
  generalize hb : byte.toNat = b at hbyte
  have hlead : ∀ n, n = b → UInt8.ofNat n = byte := by
    rintro n rfl
    rw [← hb, UInt8.ofNat_toNat]
  by_cases hone : b < 0x80
  · refine .inl ⟨Char.ofNat b, if_pos hone, ?_⟩
    have hc := toNat_ofNat_of_isValidChar (hvalid b (by omega))
    rw [encodeChar_one (by rw [hc]; exact hone), hc, hlead b rfl]
  by_cases hstray : b < 0xC2
  · exact .inr (.inr ((if_neg hone).trans (if_pos hstray)))
  by_cases htwo : b < 0xE0
  · refine .inr (.inl
      ⟨_, first_two read (by omega) htwo, Partial.isProper_next _ 0, fun n hn => ?_⟩)
    rw [Partial.open_one] at hn
    have hn' := hvalid n (by omega)
    have hc := toNat_ofNat_of_isValidChar hn'
    rw [encodeChar_two (by omega) (by omega), hc, hlead _ (by omega)]
    exact ⟨hn', rfl⟩
  by_cases hthree : b < 0xF0
  · obtain ⟨least, greatest, hfirst, hleast, hgreatest, hopen⟩ :=
      first_three read (Nat.le_of_not_lt htwo) hthree
    refine .inr (.inl ⟨_, hfirst, ⟨Nat.succ_pos _, hleast, hgreatest⟩, fun n hn => ?_⟩)
    rw [hopen] at hn
    have hn' := hvalid n (by omega)
    have hc := toNat_ofNat_of_isValidChar hn'
    rw [encodeChar_three (by omega) (by omega), hc, hlead _ (by omega)]
    exact ⟨hn', rfl⟩
  by_cases hfour : b ≤ 0xF4
  · obtain ⟨least, greatest, hfirst, hleast, hgreatest, hopen⟩ :=
      first_four read (Nat.le_of_not_lt hthree) hfour
    refine .inr (.inl ⟨_, hfirst, ⟨Nat.succ_pos _, hleast, hgreatest⟩, fun n hn => ?_⟩)
    rw [hopen] at hn
    have hn' := hvalid n (by omega)
    have hc := toNat_ofNat_of_isValidChar hn'
    rw [encodeChar_four (by omega), hc, hlead _ (by omega)]
    exact ⟨hn', rfl⟩
  · refine .inr (.inr ?_)
    rw [first, if_neg hone, if_neg hstray, if_neg htwo, if_neg (by omega), if_neg (by omega),
      if_neg hthree, if_neg (by omega), if_neg (by omega), if_neg (by omega)]

/-- A first byte takes back nothing. -/
theorem mem_read_first (h : none ∈ read) : none ∈ (first read byte.toNat).read := by
  rcases first_cases read byte with ⟨c, he, -⟩ | ⟨p, he, -⟩ | he
  · rw [he]
    exact List.mem_cons_of_mem _ h
  · rw [he]
    exact h
  · rw [he]
    exact List.mem_cons_self ..

/-- A gap stays. -/
theorem mem_read_step {begun : Option Partial} (h : none ∈ read) :
    none ∈ (step ⟨read, begun⟩ byte).read := by
  cases begun with
  | none => exact mem_read_first h
  | some p =>
      by_cases hin : p.least ≤ byte.toNat ∧ byte.toNat ≤ p.greatest
      · obtain ⟨value, owed, least, greatest⟩ := p
        refine (congrArg (none ∈ Reading.read ·) (if_pos hin)).mpr ?_
        rcases owed with _ | _ | owed
        · exact List.mem_cons_of_mem _ h
        · exact List.mem_cons_of_mem _ h
        · exact h
      · rw [step_gap hin]
        exact mem_read_first (List.mem_cons_of_mem _ h)

theorem Tells.step {r : Reading} {bytes : List UInt8} (h : r.Tells bytes) (byte : UInt8) :
    (r.step byte).Tells (bytes ++ [byte]) := by
  obtain ⟨read, begun⟩ := r
  rcases h with hread | ⟨cs, tail, hread, rfl, hbegun⟩
  · exact .inl (mem_read_step hread)
  cases begun with
  | none =>
      cases hbegun
      rw [List.append_nil]
      show (Reading.first read byte.toNat).Tells _
      rcases first_cases read byte with ⟨c, he, hc⟩ | ⟨p, he, hp⟩ | he
      · rw [he]
        refine .inr ⟨cs ++ [c], [], ?_, ?_, rfl⟩
        · change read = _ at hread
          rw [hread, List.map_append, List.reverse_append]
          rfl
        · rw [List.flatMap_append, List.flatMap_singleton, hc, List.append_nil]
      · rw [he]
        exact .inr ⟨cs, [byte], hread, rfl, hp⟩
      · rw [he]
        exact .inl (List.mem_cons_self ..)
  | some p =>
      obtain ⟨value, owed, least, greatest⟩ := p
      change Partial.IsBegunBy _ tail at hbegun
      by_cases hin : least ≤ byte.toNat ∧ byte.toNat ≤ greatest
      · rcases owed with _ | _ | owed
        · exact absurd hbegun.owes (Nat.lt_irrefl 0)
        · rw [step_last hin]
          change read = _ at hread
          refine .inr ⟨cs ++ [Char.ofNat (value * 0x40 + byte.toNat % 0x40)], [], ?_, ?_, rfl⟩
          · rw [hread, List.map_append, List.reverse_append]
            rfl
          · rw [List.flatMap_append, List.flatMap_singleton, hbegun.last hin.1 hin.2,
              List.append_nil, List.append_assoc]
        · rw [step_more hin]
          exact .inr ⟨cs, tail ++ [byte], hread, List.append_assoc .., hbegun.more hin.1 hin.2⟩
      · refine .inl ?_
        rw [step_gap hin]
        exact mem_read_first (List.mem_cons_self ..)

theorem tells_foldl (bytes : List UInt8) :
    (bytes.foldl Reading.step ⟨[], none⟩).Tells bytes := by
  induction bytes using List.reverseRecOn with
  | nil => exact .inr ⟨[], [], rfl, rfl, rfl⟩
  | append_singleton bytes byte ih =>
      rw [List.foldl_append]
      exact ih.step byte

end Reading

theorem solid_map_some (cs : List Char) : solid (cs.map some) = some cs := by
  induction cs with
  | nil => rfl
  | cons c cs ih =>
      show (solid (cs.map some)).map _ = _
      rw [ih]
      rfl

theorem solid_eq_none {l : List (Option Char)} (h : none ∈ l) : solid l = none := by
  induction l with
  | nil => exact nomatch h
  | cons x l ih =>
      cases x with
      | none => rfl
      | some c =>
          show (solid l).map _ = none
          rw [ih ((List.mem_cons.1 h).resolve_left nofun)]
          rfl

/-- A text is read from exactly the bytes that it is written as. -/
theorem decode?_eq_some_iff {bytes : List UInt8} {s : String} :
    decode? bytes = some s ↔ bytes = encode s := by
  constructor
  · intro h
    obtain ⟨cs, hcs, rfl⟩ := Option.map_eq_some_iff.1 h
    rw [encode, String.toList_ofList]
    have htells := Reading.tells_foldl bytes
    rw [pieces] at hcs
    generalize bytes.foldl Reading.step ⟨[], none⟩ = r at htells hcs
    obtain ⟨read, begun⟩ := r
    -- a gap, also one at the end, is no text
    have hsolid : ∀ l : List (Option Char), solid l.reverse = some cs → none ∉ l := by
      intro l hl hgap
      rw [solid_eq_none (List.mem_reverse.2 hgap)] at hl
      exact nomatch hl
    cases begun with
    | some p => exact absurd (List.mem_cons_self ..) (hsolid _ hcs)
    | none =>
        rcases htells with hgap | ⟨cs', tail, hread, rfl, hbegun⟩
        · exact absurd hgap (hsolid _ hcs)
        · change read = _ at hread
          change solid read.reverse = _ at hcs
          cases hbegun
          rw [hread, List.reverse_reverse, solid_map_some] at hcs
          rw [List.append_nil, Option.some.inj hcs]
  · rintro rfl
    rw [decode?, pieces, encode, Reading.foldl_step_flatMap, List.append_nil, List.reverse_reverse,
      solid_map_some, Option.map_some, String.ofList_toList]

end CloudReconciler.Utf8
