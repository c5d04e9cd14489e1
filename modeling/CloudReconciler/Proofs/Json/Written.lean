import CloudReconciler.Json.Writer
import CloudReconciler.Proofs.Json.Record
import CloudReconciler.Proofs.Time.Rfc3339
import Mathlib.Data.List.Basic

/-! # Written documents — the compact form is read back

    What is written is the layout of a tree without blanks, so it is read
    as what the tree means.  A text is written as elements that mean its
    bytes (`elements_escaped`), an integer as the numeral of its digits
    (`lexeme_number`).  `IsExact` is what is left of the documents when
    doubles and unreadable parts are taken out: the shortest digits of a
    double are a matter of their own, and nothing is written for a part
    that means nothing. -/

namespace CloudReconciler

namespace Utf8

/-- Bytes of a character outside of ASCII are outside of it too. -/
theorem le_of_mem_encodeChar {c : Char} {b : UInt8} (hc : 0x80 ≤ c.toNat)
    (hb : b ∈ encodeChar c) : 0x80 ≤ b.toNat := by
  have hvalid := toNat_valid c
  have htail : ∀ n owed, ∀ b ∈ continuations n owed, 0x80 ≤ b.toNat := by
    intro n owed
    induction owed with
    | zero => exact fun b hb => nomatch hb
    | succ owed ih =>
        refine List.forall_mem_cons.2 ⟨?_, ih⟩
        rw [toNat_continuation]
        exact Nat.le_add_right ..
  have hlead : ∀ n < 0x100, 0x80 ≤ n → 0x80 ≤ (UInt8.ofNat n).toNat := by
    intro n hn hle
    rwa [toNat_ofNat_of_lt hn]
  by_cases htwo : c.toNat < 0x800
  · rw [encodeChar_two hc htwo] at hb
    rcases List.mem_cons.1 hb with rfl | hb
    · exact hlead _ (by omega) (by omega)
    · exact htail _ _ b hb
  by_cases hthree : c.toNat < 0x10000
  · rw [encodeChar_three (by omega) hthree] at hb
    rcases List.mem_cons.1 hb with rfl | hb
    · exact hlead _ (by omega) (by omega)
    · exact htail _ _ b hb
  · rw [encodeChar_four (by omega)] at hb
    rcases List.mem_cons.1 hb with rfl | hb
    · exact hlead _ (by omega) (by omega)
    · exact htail _ _ b hb

theorem encode_append (s t : String) : encode (s ++ t) = encode s ++ encode t := by
  rw [encode, String.toList_append, List.flatMap_append]
  rfl

theorem encode_ofList (cs : List Char) : encode (String.ofList cs) = cs.flatMap encodeChar := by
  rw [encode, String.toList_ofList]

end Utf8

namespace Json

open Token Utf8

/-! ## Characters that are bytes -/

section

variable {c : Char} {cs : List Char}

/-- A character of ASCII. -/
def IsAscii (c : Char) : Prop := c.toNat < 0x80

instance (c : Char) : Decidable (IsAscii c) := inferInstanceAs (Decidable (_ < _))

theorem charOf_ofNat (h : IsAscii c) : charOf (UInt8.ofNat c.toNat) = c := by
  have hlt : c.toNat < 0x100 := Nat.lt_trans h (by decide)
  rw [charOf, toNat_ofNat_of_lt hlt, Char.ofNat_toNat]

/-- Characters of ASCII are written as bytes that are the same characters. -/
theorem map_charOf_flatMap (h : ∀ c ∈ cs, IsAscii c) :
    (cs.flatMap encodeChar).map charOf = cs := by
  induction cs with
  | nil => rfl
  | cons c cs ih =>
      obtain ⟨hc, hcs⟩ := List.forall_mem_cons.1 h
      rw [List.flatMap_cons, encodeChar_one hc, List.map_append, ih hcs, List.map_singleton,
        charOf_ofNat hc]
      rfl

theorem isAscii_of_isDigit (h : c.isDigit = true) : IsAscii c := by
  rw [Char.isDigit, Bool.and_eq_true, decide_eq_true_iff, decide_eq_true_iff] at h
  exact Nat.lt_of_le_of_lt (UInt32.le_iff_toNat_le.1 h.2) (by decide)

end

/-! ## Numbers -/

/-- The number is written as an integer that is read as itself. -/
def Number.IsExact : Number → Prop
  | .natural n => n ≤ maxWord
  | .negative n => 0 < n ∧ n ≤ Int64.minValue.toInt.natAbs
  | .real _ => False

section

variable {n : Nat}

theorem head?_toDigits (h : 0 < n) : (Nat.toDigits 10 n).head? ≠ some '0' := by
  induction n using Nat.strong_induction_on with
  | _ n ih =>
      by_cases hlt : n < 10
      · rw [Nat.toDigits_of_lt_base hlt]
        have hdigit : ∀ d < 10, 0 < d → [Nat.digitChar d].head? ≠ some '0' := by decide
        exact hdigit n hlt h
      · have hpos : 0 < n / 10 := Nat.div_pos (Nat.le_of_not_lt hlt) (by decide)
        rw [Nat.toDigits_of_base_le (by decide) (Nat.le_of_not_lt hlt),
          List.head?_append_of_ne_nil _ Nat.toDigits_ne_nil]
        exact ih (n / 10) (Nat.div_lt_self h (by decide)) hpos

theorem isDigits_toDigits (n : Nat) : IsDigits (Nat.toDigits 10 n) :=
  ⟨Nat.toDigits_ne_nil, fun _ hc => Nat.isDigit_of_mem_toDigits (by decide) (by decide) hc⟩

/-- The digits of a natural are a whole part. -/
theorem isWholePart_toDigits (n : Nat) : IsWholePart (Nat.toDigits 10 n) := by
  refine ⟨isDigits_toDigits n, fun hzero => ?_⟩
  rcases Nat.eq_zero_or_pos n with rfl | hpos
  · rfl
  · exact absurd hzero (head?_toDigits hpos)

/-- Digits with or without a minus are the numeral of them. -/
theorem lexeme_digits (negative : Bool) (n : Nat) :
    Lexeme (.number (numberValue ⟨negative, Nat.toDigits 10 n, none, none⟩))
      ((signText negative ++ Nat.toDigits 10 n).flatMap encodeChar) := by
  refine .number ?_
  rw [map_charOf_flatMap]
  · refine ⟨isWholePart_toDigits n, [], [], .absent, .absent, ?_⟩
    rw [List.append_nil, List.append_nil]
  · have hdigits := (isDigits_toDigits n).2
    refine List.forall_mem_append.2 ⟨?_, fun c hc => isAscii_of_isDigit (hdigits c hc)⟩
    cases negative with
    | true => exact List.forall_mem_singleton.2 (by decide)
    | false => exact fun c hc => nomatch hc

theorem digitsValue_toDigits (n : Nat) : Rfc3339.digitsValue (Nat.toDigits 10 n) = n := by
  rw [Rfc3339.digitsValue_eq, Nat.ofDigitChars_ten_toDigits]

theorem numberValue_natural (h : n ≤ maxWord) :
    numberValue ⟨false, Nat.toDigits 10 n, none, none⟩ = some (.natural n) := by
  show (if Rfc3339.digitsValue _ ≤ maxWord then some (Number.natural _) else _) = _
  rw [digitsValue_toDigits, if_pos h]

theorem numberValue_negative (h : 0 < n ∧ n ≤ Int64.minValue.toInt.natAbs) :
    numberValue ⟨true, Nat.toDigits 10 n, none, none⟩ = some (.negative n) := by
  show (if 0 < Rfc3339.digitsValue _ ∧ Rfc3339.digitsValue _ ≤ _ then
    some (Number.negative _) else _) = _
  rw [digitsValue_toDigits, if_pos h]

end

/-- An exact number is written as a lexeme of itself. -/
theorem lexeme_number {x : Number} (h : Number.IsExact x) :
    Lexeme (.number (some x)) (encode (numberText x)) := by
  cases x with
  | natural n =>
      have hlexeme := lexeme_digits false n
      rw [numberValue_natural h] at hlexeme
      rw [numberText, Nat.toString_eq_ofList_toDigits, encode_ofList]
      exact hlexeme
  | negative n =>
      have hlexeme := lexeme_digits true n
      rw [numberValue_negative h] at hlexeme
      rw [numberText, Nat.toString_eq_ofList_toDigits, encode_append,
        encode_ofList (Nat.toDigits 10 n)]
      rwa [List.flatMap_append] at hlexeme
  | real x => exact h.elim

/-! ## Texts -/

section

variable {c : Char} {cs : List Char} {bs : List UInt8} {es : List Element}

/-- A byte that stands for itself inside a string. -/
def IsPlainByte (b : UInt8) : Prop := charOf b ≠ '"' ∧ charOf b ≠ '\\' ∧ ¬ b < 0x20

theorem elements_plain (h : ∀ b ∈ bs, IsPlainByte b) : Elements (bs.map .byte) bs := by
  induction bs with
  | nil => exact .nil
  | cons b bs ih =>
      obtain ⟨⟨hquote, hslash, hcontrol⟩, hbs⟩ := List.forall_mem_cons.1 h
      exact .cons (.byte hquote hslash hcontrol) (ih hbs)

theorem denote_plainBytes (bs : List UInt8) (es : List Element) :
    denote (bs.map .byte ++ es) = (denote es).map (bs ++ ·) := by
  induction bs with
  | nil => exact Option.map_id_apply.symm
  | cons b bs ih =>
      show (denote (bs.map .byte ++ es)).map (b :: ·) = _
      rw [ih, Option.map_map]
      rfl

theorem toNat_charOf (b : UInt8) : (charOf b).toNat = b.toNat := by
  have hlt := b.toNat_lt
  exact toNat_ofNat_of_isValidChar (.inl (by omega))

/-- The bytes of a character that needs no escape. -/
theorem isPlainByte_encodeChar (hcontrol : 0x20 ≤ c.toNat) (hquote : c ≠ '"') (hslash : c ≠ '\\') :
    ∀ b ∈ encodeChar c, IsPlainByte b := by
  intro b hb
  by_cases hc : IsAscii c
  · rw [encodeChar_one hc, List.mem_singleton] at hb
    subst hb
    rw [IsPlainByte, charOf_ofNat hc, UInt8.lt_iff_toNat_lt,
      toNat_ofNat_of_lt (Nat.lt_trans hc (by decide))]
    exact ⟨hquote, hslash, Nat.not_lt.2 hcontrol⟩
  · have hle := le_of_mem_encodeChar (Nat.le_of_not_lt hc) hb
    have hne : ∀ a : Char, a.toNat < 0x80 → charOf b ≠ a := by
      rintro a ha rfl
      rw [toNat_charOf] at ha
      omega
    refine ⟨hne _ (by decide), hne _ (by decide), ?_⟩
    rw [UInt8.lt_iff_toNat_lt]
    exact Nat.not_lt.2 (Nat.le_trans (by decide) hle)

/-- How a character stands inside a string. -/
theorem escapeChar_cases (c : Char) :
    (∃ mark, (mark, c) ∈ shortEscapes ∧ escapeChar c = ['\\', mark]) ∨
      (c.toNat < 0x20 ∧ escapeChar c =
        ['\\', 'u', '0', '0', Nat.digitChar (c.toNat / 16), Nat.digitChar (c.toNat % 16)]) ∨
      (0x20 ≤ c.toNat ∧ c ≠ '"' ∧ c ≠ '\\' ∧ escapeChar c = [c]) := by
  unfold escapeChar
  split
  case h_8 hquote hslash _ _ _ _ _ =>
    split
    · next hlt => exact .inr (.inl ⟨hlt, rfl⟩)
    · next hlt => exact .inr (.inr ⟨Nat.le_of_not_lt hlt, hquote, hslash, rfl⟩)
  all_goals exact .inl ⟨_, by decide, rfl⟩

/-- The four digits of a control character. -/
theorem hexDigits_spec :
    ∀ n < 0x20,
      let ds := ['0', '0', Nat.digitChar (n / 16), Nat.digitChar (n % 16)].flatMap encodeChar
      ds.length = 4 ∧ hexValueFrom? 0 ds = some n := by
  decide +kernel

/-- A character is written as elements that mean its bytes. -/
theorem elements_escapeChar (c : Char) :
    ∃ es, Elements es ((escapeChar c).flatMap encodeChar) ∧
      ∀ rest, denote (es ++ rest) = (denote rest).map (encodeChar c ++ ·) := by
  rcases escapeChar_cases c with ⟨mark, hmark, heq⟩ | ⟨hlt, heq⟩ | ⟨hle, hquote, hslash, heq⟩
  · -- a character with a short escape
    have hascii : ∀ m ∈ shortEscapes, IsAscii m.1 := by decide
    have hm : IsAscii mark := hascii _ hmark
    refine ⟨[.char c], ?_, fun rest => rfl⟩
    rw [heq, List.flatMap_cons, List.flatMap_singleton, encodeChar_one hm]
    refine .single (.char rfl ?_)
    rwa [charOf_ofNat hm]
  · -- another control character is its own unit, which is none of a pair
    have hhigh : ¬ IsHigh c.toNat := fun h =>
      absurd (Nat.le_trans h.1 (Nat.le_of_lt hlt)) (by decide)
    have hlow : ¬ IsLow c.toNat := fun h =>
      absurd (Nat.le_trans h.1 (Nat.le_of_lt hlt)) (by decide)
    refine ⟨[.unit c.toNat], ?_, fun rest => ?_⟩
    · rw [heq]
      obtain ⟨hlength, hvalue⟩ := hexDigits_spec _ hlt
      exact .single (.unit rfl rfl hlength hvalue)
    · rw [List.singleton_append, denote_plain hhigh hlow, Char.ofNat_toNat]
  · -- the bytes of any other character stand for themselves
    refine ⟨(encodeChar c).map .byte, ?_, denote_plainBytes _⟩
    rw [heq, List.flatMap_singleton]
    exact elements_plain (isPlainByte_encodeChar hle hquote hslash)

/-- A text is written as elements that mean its bytes. -/
theorem elements_escaped (cs : List Char) :
    ∃ es, Elements es ((escaped cs).flatMap encodeChar) ∧
      denote es = some (cs.flatMap encodeChar) := by
  induction cs with
  | nil => exact ⟨[], .nil, rfl⟩
  | cons c cs ih =>
      obtain ⟨es, hes, hmeans⟩ := ih
      obtain ⟨first, hfirst, hc⟩ := elements_escapeChar c
      refine ⟨first ++ es, ?_, ?_⟩
      · rw [escaped, List.flatMap_append]
        exact hfirst.append hes
      · rw [hc, hmeans]
        rfl

/-- A text in quotes is a lexeme of itself. -/
theorem lexeme_quoted (s : String) : Lexeme (.text (some s)) (encode (quoted s)) := by
  obtain ⟨es, hes, hmeans⟩ := elements_escaped s.toList
  have htext : textOf es = some s := by
    rw [textOf, hmeans]
    exact decode?_eq_some_iff.2 rfl
  rw [← htext, quoted, encode_append, encode_append, encode_ofList (escaped s.toList)]
  have hquote : charOf 0x22 = '"' := rfl
  exact .text hquote hquote hes

end

/-! ## Documents -/

/-- A document that is read back as itself. -/
inductive IsExact : Json → Prop
  | null : IsExact .null
  | bool {b} : IsExact (.bool b)
  | number {n} : Number.IsExact n → IsExact (.number n)
  | string {s} : IsExact (.string s)
  | array {items} : (∀ item ∈ items, IsExact item) → IsExact (.array items)
  | object {members} : (∀ m ∈ members, IsExact m.2) → IsExact (.object members)

/-- The bytes of the compact form. -/
def written (j : Json) : List UInt8 := encode (write j)

/-- The compact form of the document is a layout of the tree, which means the document. -/
def Tree.Shows (tree : Tree) (j : Json) : Prop := Layout tree.tokens j.written ∧ tree.value = j

section

variable {t : Token} {bs : List UInt8} {item : Json} {items : List Json} {name : String}
  {members : List (String × Json)}

theorem layout_word {w : String} (h : (w, t) ∈ words) : Layout [t] (encode w) := by
  refine .single (.word h ?_)
  have hascii : ∀ w ∈ words, (w.1.toList.all fun c => decide (IsAscii c)) = true := by decide
  exact map_charOf_flatMap fun c hc => of_decide_eq_true (List.all_eq_true.1 (hascii _ h) c hc)

theorem exists_itemTrees (h : ∀ item ∈ items, ∃ tree : Tree, tree.Shows item) :
    ∃ trees, Layout (Tree.itemTokens trees) (encode (writeItems items)) ∧
      Tree.itemValues trees = items := by
  induction items with
  | nil => exact ⟨[], .blank nofun, rfl⟩
  | cons item items ih =>
      obtain ⟨hitem, hitems⟩ := List.forall_mem_cons.1 h
      obtain ⟨tree, hlayout, hvalue⟩ := hitem
      obtain ⟨trees, hlayouts, hvalues⟩ := ih hitems
      refine ⟨tree :: trees, ?_, ?_⟩
      · have hcomma : Layout [.comma] (encode ",") := .single (.mark (b := 0x2C) (by decide))
        rw [writeItems, encode_append, encode_append, List.append_assoc]
        exact hcomma.append (hlayout.append hlayouts)
      · rw [Tree.itemValues, hvalue, hvalues]

theorem exists_memberTrees (h : ∀ m ∈ members, ∃ tree : Tree, tree.Shows m.2) :
    ∃ trees, Layout (Tree.memberTokens trees) (encode (writeMembers members)) ∧
      Tree.memberValues trees = members ∧ Tree.namesReadable trees = true := by
  induction members with
  | nil => exact ⟨[], .blank nofun, rfl, rfl⟩
  | cons m members ih =>
      obtain ⟨name, value⟩ := m
      obtain ⟨hvalue, hmembers⟩ := List.forall_mem_cons.1 h
      obtain ⟨tree, hlayout, htree⟩ := hvalue
      obtain ⟨trees, hlayouts, hvalues, hnames⟩ := ih hmembers
      refine ⟨(some name, tree) :: trees, ?_, ?_, hnames⟩
      · have hcomma : Layout [.comma] (encode ",") := .single (.mark (b := 0x2C) (by decide))
        have hcolon : Layout [.colon] (encode ":") := .single (.mark (b := 0x3A) (by decide))
        have hname := Layout.single (lexeme_quoted name)
        simp only [writeMembers, encode_append, List.append_assoc]
        exact hcomma.append (hname.append (hcolon.append (hlayout.append hlayouts)))
      · rw [Tree.memberValues, htree, hvalues]

/-- Every exact document is written as a layout of a tree that means it. -/
theorem IsExact.exists_tree {j : Json} (h : j.IsExact) : ∃ tree : Tree, tree.Shows j := by
  induction h with
  | null => exact ⟨.null, layout_word (by decide), rfl⟩
  | @bool b =>
      refine ⟨.bool b, ?_, rfl⟩
      cases b with
      | true => exact layout_word (w := "true") (by decide)
      | false => exact layout_word (w := "false") (by decide)
  | number hn => exact ⟨.number (some _), .single (lexeme_number hn), rfl⟩
  | @string s => exact ⟨.text (some s), .single (lexeme_quoted s), rfl⟩
  | @array items _ ih =>
      have hopen : Layout [.openArray] (encode "[") := .single (.mark (b := 0x5B) (by decide))
      have hclose : Layout [.closeArray] (encode "]") := .single (.mark (b := 0x5D) (by decide))
      cases items with
      | nil => exact ⟨.array [], hopen.append hclose, rfl⟩
      | cons item items =>
          obtain ⟨hitem, hitems⟩ := List.forall_mem_cons.1 ih
          obtain ⟨tree, hlayout, hvalue⟩ := hitem
          obtain ⟨trees, hlayouts, hvalues⟩ := exists_itemTrees hitems
          refine ⟨.array (tree :: trees), ?_, ?_⟩
          · simp only [written, write, encode_append, List.append_assoc]
            exact hopen.append (hlayout.append (hlayouts.append hclose))
          · rw [Tree.value, Tree.itemValues, hvalue, hvalues]
  | @object members _ ih =>
      have hopen : Layout [.openObject] (encode "\x7b") := .single (.mark (b := 0x7B) (by decide))
      have hclose : Layout [.closeObject] (encode "\x7d") := .single (.mark (b := 0x7D) (by decide))
      cases members with
      | nil => exact ⟨.object [], hopen.append hclose, rfl⟩
      | cons m members =>
          obtain ⟨name, value⟩ := m
          obtain ⟨hvalue, hmembers⟩ := List.forall_mem_cons.1 ih
          obtain ⟨tree, hlayout, htree⟩ := hvalue
          obtain ⟨trees, hlayouts, hvalues, hnames⟩ := exists_memberTrees hmembers
          have hname := Layout.single (lexeme_quoted name)
          have hcolon : Layout [.colon] (encode ":") := .single (.mark (b := 0x3A) (by decide))
          refine ⟨.object ((some name, tree) :: trees), ?_, ?_⟩
          · simp only [written, write, encode_append, List.append_assoc]
            exact hopen.append (hname.append (hcolon.append
              (hlayout.append (hlayouts.append hclose))))
          · have hreadable : Tree.namesReadable ((some name, tree) :: trees) = true := hnames
            rw [Tree.value, if_pos hreadable, Tree.memberValues, htree, hvalues]

/-- The compact form of an exact document says what the document says. -/
theorem isSpelledBy_written {α : Type} {Is : α → Json → Prop} {a : α} {j : Json} (h : j.IsExact)
    (ha : Is a j) : IsSpelledBy Is a j.written := by
  obtain ⟨tree, hlayout, hvalue⟩ := h.exists_tree
  exact ⟨tree, hlayout, hvalue ▸ ha⟩

end

end Json

end CloudReconciler
