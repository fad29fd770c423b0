/-
Number texts tell numbers apart.

- `DecimalText.value`: the value of a decimal text without sign, read off the text alone.
- `value_positional`, `value_scientific`: both layouts write a decimal with its value.
- `text_spec`: the text of a floating number is its sign and a text whose value reads back to the number.
- `text_injective`: a number is determined by its text. Integers have neither point nor exponent mark, and floating
  numbers have one; within a class the value decides.
-/
import Mathlib.Data.List.TakeWhile
import Mathlib.Tactic
import DocumentModels.Json.Reader
import DocumentModels.Proofs.Numeric.Shortest

namespace DocumentModels

open Numeric

/-! ## Digits -/

theorem natOfDigits_eq (cs : List Char) : natOfDigits cs = Nat.ofDigitChars 10 cs 0 := by
  simp only [natOfDigits, Nat.ofDigitChars_eq_foldl, digitValue]
  congr 1
  funext n c
  rw [Nat.mul_comm]

theorem natOfDigits_append (cs ds : List Char) :
    natOfDigits (cs ++ ds) = natOfDigits cs * 10 ^ ds.length + natOfDigits ds := by
  simp only [natOfDigits_eq, Nat.ofDigitChars_append]
  rw [Nat.ofDigitChars_eq_ofDigitChars_zero, Nat.mul_comm]

theorem natOfDigits_zeros (n : Nat) : natOfDigits (List.replicate n '0') = 0 := by
  simp [natOfDigits_eq]

theorem natOfDigits_toDigits (n : Nat) : natOfDigits (Nat.toDigits 10 n) = n := by
  simp [natOfDigits_eq]

theorem isDigit_of_isDigit {c : Char} (h : c.isDigit = true) : isDigit c = true := by
  simp only [Char.isDigit, Bool.and_eq_true, decide_eq_true_eq] at h
  simp only [isDigit, Bool.and_eq_true, decide_eq_true_eq]
  exact h

theorem isDigit_toDigits {n : Nat} {c : Char} (h : c ∈ Nat.toDigits 10 n) : isDigit c = true :=
  isDigit_of_isDigit (Nat.isDigit_of_mem_toDigits (by norm_num) (by norm_num) h)

theorem isDigit_zeros {n : Nat} {c : Char} (h : c ∈ List.replicate n '0') : isDigit c = true := by
  rw [List.eq_of_mem_replicate h]; rfl

theorem toList_toString (n : Nat) : (toString n).toList = Nat.toDigits 10 n := by
  simp

theorem toList_pushn (c : Char) (n : Nat) : ("".pushn c n).toList = List.replicate n c := by
  rw [String.pushn_eq_repeat_push]
  induction n with
  | zero => rfl
  | succ n ih => rw [Nat.repeat, String.toList_push, ih, List.replicate_succ']

/-! ## The value of a decimal text -/

namespace DecimalText

/-- the value of an exponent part; none is zero -/
def exponent : List Char → ℤ
  | _ :: '-' :: digits => -natOfDigits digits
  | _ :: _ :: digits => natOfDigits digits
  | _ => 0

@[simp] theorem exponent_nil : exponent [] = 0 := rfl

@[simp] theorem exponent_minus (mark : Char) (digits : List Char) :
    exponent (mark :: '-' :: digits) = -natOfDigits digits := rfl

@[simp] theorem exponent_plus (mark : Char) (digits : List Char) :
    exponent (mark :: '+' :: digits) = natOfDigits digits := rfl

/-- the value of a decimal text without sign -/
def value (cs : List Char) : ℚ :=
  let mantissa := cs.takeWhile (· ≠ 'e')
  let fraction := (mantissa.dropWhile (· ≠ '.')).drop 1
  natOfDigits (mantissa.takeWhile (· ≠ '.') ++ fraction)
    * 10 ^ (exponent (cs.dropWhile (· ≠ 'e')) - fraction.length)

/-- digits are neither point nor exponent mark -/
theorem digit_ne {c : Char} (h : isDigit c = true) : c ≠ 'e' ∧ c ≠ '.' ∧ c ≠ '-' := by
  refine ⟨?_, ?_, ?_⟩ <;> (rintro rfl; revert h; decide)

variable {whole fraction rest : List Char}

/-- a text is cut at the exponent mark -/
theorem value_append {mantissa : List Char} (hm : ∀ c ∈ mantissa, c ≠ 'e')
    (hr : rest = [] ∨ ∃ tail, rest = 'e' :: tail) :
    value (mantissa ++ rest)
      = natOfDigits (mantissa.takeWhile (· ≠ '.') ++ (mantissa.dropWhile (· ≠ '.')).drop 1)
        * 10 ^ (exponent rest - ((mantissa.dropWhile (· ≠ '.')).drop 1).length) := by
  have hm' : ∀ c ∈ mantissa, decide (c ≠ 'e') = true := by simpa using hm
  have htake : rest.takeWhile (· ≠ 'e') = [] := by
    rcases hr with rfl | ⟨tail, rfl⟩ <;> simp
  have hdrop : rest.dropWhile (· ≠ 'e') = rest := by
    rcases hr with rfl | ⟨tail, rfl⟩ <;> simp
  unfold value
  rw [List.takeWhile_append_of_pos hm', htake, List.append_nil, List.dropWhile_append_of_pos hm', hdrop]

theorem value_point (hw : ∀ c ∈ whole, isDigit c = true) (hf : ∀ c ∈ fraction, isDigit c = true)
    (hr : rest = [] ∨ ∃ tail, rest = 'e' :: tail) :
    value (whole ++ '.' :: fraction ++ rest)
      = natOfDigits (whole ++ fraction) * 10 ^ (exponent rest - fraction.length) := by
  have hw' : ∀ c ∈ whole, decide (c ≠ '.') = true := fun c hc => by simpa using (digit_ne (hw c hc)).2.1
  have hm : ∀ c ∈ whole ++ '.' :: fraction, c ≠ 'e' := by
    intro c hc
    rcases List.mem_append.1 hc with hc | hc
    · exact (digit_ne (hw c hc)).1
    · rcases List.mem_cons.1 hc with rfl | hc
      · decide
      · exact (digit_ne (hf c hc)).1
  rw [value_append hm hr, List.takeWhile_append_of_pos hw', List.dropWhile_append_of_pos hw']
  simp

/-- the value of a text without point -/
theorem value_plain (hw : ∀ c ∈ whole, isDigit c = true) (hr : rest = [] ∨ ∃ tail, rest = 'e' :: tail) :
    value (whole ++ rest) = natOfDigits whole * 10 ^ exponent rest := by
  have hw' : ∀ c ∈ whole, decide (c ≠ '.') = true := fun c hc => by simpa using (digit_ne (hw c hc)).2.1
  rw [value_append (fun c hc => (digit_ne (hw c hc)).1) hr, List.takeWhile_eq_self_iff.2 hw',
    List.dropWhile_eq_nil_iff.2 hw']
  simp

end DecimalText

/-! ## The texts of a layout -/

namespace Numeric.DecimalLayout

open DecimalText

theorem value_positional (d : Decimal) :
    value (Number.layout.positional (toString d.digits) ((toString d.digits).length + d.exponent)).toList = d.value := by
  set digits := Nat.toDigits 10 d.digits with hdigits
  have hd : ∀ c ∈ digits, isDigit c = true := fun c hc => isDigit_toDigits hc
  have hlen : (toString d.digits).length = digits.length := by rw [← String.length_toList, toList_toString]
  have hn : natOfDigits digits = d.digits := natOfDigits_toDigits _
  simp only [positional, hlen, Number.layout, if_true]
  set point : ℤ := digits.length + d.exponent with hpoint
  split_ifs with hlow hhigh
  · -- zeros stand between the point and the digits
    have hcut : ("0." ++ "".pushn '0' (-point).toNat ++ toString d.digits).toList
        = ['0'] ++ '.' :: (List.replicate (-point).toNat '0' ++ digits) ++ [] := by
      simp [toList_pushn, ← hdigits]
    have hf : ∀ c ∈ List.replicate (-point).toNat '0' ++ digits, isDigit c = true := by
      intro c hc
      rcases List.mem_append.1 hc with hc | hc
      · exact isDigit_zeros hc
      · exact hd c hc
    have hexp : (0 : ℤ) - (List.replicate (-point).toNat '0' ++ digits).length = d.exponent := by
      rw [List.length_append, List.length_replicate]; omega
    rw [hcut, value_point (by simp [isDigit]) hf (Or.inl rfl), natOfDigits_append, natOfDigits_append,
      natOfDigits_zeros, hn, exponent_nil, hexp]
    simp [Decimal.value, natOfDigits, digitValue]
  · -- zeros stand between the digits and the point
    have hcut : (toString d.digits ++ "".pushn '0' (point.toNat - digits.length) ++ ".0").toList
        = (digits ++ List.replicate (point.toNat - digits.length) '0') ++ '.' :: ['0'] ++ [] := by
      simp [toList_pushn, ← hdigits]
    have hw : ∀ c ∈ digits ++ List.replicate (point.toNat - digits.length) '0', isDigit c = true := by
      intro c hc
      rcases List.mem_append.1 hc with hc | hc
      · exact hd c hc
      · exact isDigit_zeros hc
    have hexp : d.exponent = ((point.toNat - digits.length : ℕ) : ℤ) := by omega
    rw [hcut, value_point hw (by simp [isDigit]) (Or.inl rfl), natOfDigits_append, natOfDigits_append, hn,
      natOfDigits_zeros, Decimal.value, hexp]
    simp [natOfDigits, digitValue]
  · -- the point stands among the digits
    have hcut : (String.ofList ((toString d.digits).toList.take point.toNat) ++ "."
        ++ String.ofList ((toString d.digits).toList.drop point.toNat)).toList
        = digits.take point.toNat ++ '.' :: digits.drop point.toNat ++ [] := by
      simp [← hdigits]
    have hexp : (0 : ℤ) - (digits.drop point.toNat).length = d.exponent := by
      rw [List.length_drop]; omega
    rw [hcut, value_point (fun c hc => hd c (List.mem_of_mem_take hc)) (fun c hc => hd c (List.mem_of_mem_drop hc))
      (Or.inl rfl), List.take_append_drop, hn, exponent_nil, hexp, Decimal.value]

/-- the characters of a number written with an exponent -/
theorem toList_scientific (digits : String) (point : ℤ) :
    (scientific digits point).toList
      = digits.toList.take 1 ++ (if (digits.toList.drop 1).isEmpty then [] else '.' :: digits.toList.drop 1)
        ++ 'e' :: (if point - 1 < 0 then '-' else '+') :: Nat.toDigits 10 (point - 1).natAbs := by
  simp only [scientific, String.toList_append, String.toList_ofList, toList_toString]
  split_ifs <;> simp

theorem value_scientific (d : Decimal) :
    value (scientific (toString d.digits) ((toString d.digits).length + d.exponent)).toList = d.value := by
  have hd : ∀ c ∈ Nat.toDigits 10 d.digits, isDigit c = true := fun c hc => isDigit_toDigits hc
  have hn : natOfDigits (Nat.toDigits 10 d.digits) = d.digits := natOfDigits_toDigits _
  have hlen : (toString d.digits).length = (Nat.toDigits 10 d.digits).length := by
    rw [← String.length_toList, toList_toString]
  rw [toList_scientific, hlen, toList_toString]
  obtain ⟨first, rest, hcons⟩ := List.exists_cons_of_ne_nil (Nat.toDigits_ne_nil (n := d.digits) (b := 10))
  rw [hcons] at hd hn ⊢
  set point : ℤ := (first :: rest).length + d.exponent with hpoint
  have hvalue : exponent ('e' :: (if point - 1 < 0 then '-' else '+') :: Nat.toDigits 10 (point - 1).natAbs)
      = point - 1 := by
    split_ifs with hneg
    · rw [exponent_minus, natOfDigits_toDigits]; omega
    · rw [exponent_plus, natOfDigits_toDigits]; omega
  have hexp : point - 1 - rest.length = d.exponent := by
    rw [hpoint, List.length_cons]; push_cast; ring
  simp only [List.take_succ_cons, List.take_zero, List.drop_succ_cons, List.drop_zero]
  cases rest with
  | nil =>
    rw [List.isEmpty_nil, if_pos rfl, List.append_nil, value_plain hd (Or.inr ⟨_, rfl⟩), hvalue, hn, Decimal.value,
      ← hexp, List.length_nil, Nat.cast_zero, sub_zero]
  | cons c rest =>
    have hfirst : ∀ x ∈ [first], isDigit x = true := fun x hx => hd x (by simp_all)
    rw [List.isEmpty_cons, if_neg (by decide),
      value_point hfirst (fun x hx => hd x (List.mem_cons_of_mem _ hx)) (Or.inr ⟨_, rfl⟩), hvalue,
      List.singleton_append, hn, Decimal.value, hexp]

/-- what tells a floating number's text without sign from other texts -/
structure Floating (body : List Char) : Prop where
  first : ∃ c rest, body = c :: rest ∧ isDigit c = true
  marked : '.' ∈ body ∨ 'e' ∈ body
  chars : ∀ c ∈ body, Json.Reader.inNumber c = true

theorem inNumber_of_isDigit {c : Char} (h : isDigit c = true) : Json.Reader.inNumber c = true := by
  simp [Json.Reader.inNumber, h]

theorem floating_point {whole fraction : List Char} (hne : whole ≠ []) (hw : ∀ c ∈ whole, isDigit c = true)
    (hf : ∀ c ∈ fraction, isDigit c = true) : Floating (whole ++ '.' :: fraction) := by
  obtain ⟨c, rest, rfl⟩ := List.exists_cons_of_ne_nil hne
  refine ⟨⟨c, rest ++ '.' :: fraction, rfl, hw c List.mem_cons_self⟩, Or.inl (by simp), ?_⟩
  intro x hx
  rcases List.mem_append.1 hx with hx | hx
  · exact inNumber_of_isDigit (hw x hx)
  · rcases List.mem_cons.1 hx with rfl | hx
    · rfl
    · exact inNumber_of_isDigit (hf x hx)

theorem floating_positional (n : Nat) (point : ℤ) :
    Floating (Number.layout.positional (toString n) point).toList := by
  have hd : ∀ c ∈ Nat.toDigits 10 n, isDigit c = true := fun c hc => isDigit_toDigits hc
  have hz : ∀ k, ∀ c ∈ List.replicate k '0', isDigit c = true := fun k c hc => isDigit_zeros hc
  have hne : Nat.toDigits 10 n ≠ [] := Nat.toDigits_ne_nil
  simp only [positional, Number.layout, if_true]
  split_ifs with hlow hhigh
  · have hf : ∀ c ∈ List.replicate (-point).toNat '0' ++ Nat.toDigits 10 n, isDigit c = true := by
      intro c hc
      rcases List.mem_append.1 hc with hc | hc
      · exact hz _ c hc
      · exact hd c hc
    simpa [toList_pushn] using floating_point (List.cons_ne_nil '0' []) (by simp [isDigit]) hf
  · have hw : ∀ c ∈ Nat.toDigits 10 n ++ List.replicate (point.toNat - (toString n).length) '0', isDigit c = true := by
      intro c hc
      rcases List.mem_append.1 hc with hc | hc
      · exact hd c hc
      · exact hz _ c hc
    have hshape : Floating ((Nat.toDigits 10 n ++ List.replicate (point.toNat - (toString n).length) '0') ++ '.' :: ['0']) :=
      floating_point (by simp) hw (by simp [isDigit])
    simpa [toList_pushn] using hshape
  · have htake : (Nat.toDigits 10 n).take point.toNat ≠ [] := by
      simp [List.take_eq_nil_iff]; omega
    simpa using floating_point htake (fun c hc => hd c (List.mem_of_mem_take hc))
      (fun c hc => hd c (List.mem_of_mem_drop hc))

theorem floating_scientific (n : Nat) (point : ℤ) : Floating (scientific (toString n) point).toList := by
  have hd : ∀ c ∈ Nat.toDigits 10 n, isDigit c = true := fun c hc => isDigit_toDigits hc
  obtain ⟨first, rest, hcons⟩ := List.exists_cons_of_ne_nil (Nat.toDigits_ne_nil (n := n) (b := 10))
  rw [toList_scientific, toList_toString, hcons]
  rw [hcons] at hd
  refine ⟨⟨first, _, rfl, hd first List.mem_cons_self⟩, Or.inr (by simp), ?_⟩
  intro c hc
  simp only [List.take_succ_cons, List.take_zero, List.drop_succ_cons, List.drop_zero, List.mem_append, List.mem_cons,
    List.not_mem_nil, or_false] at hc
  rcases hc with (rfl | hc) | rfl | rfl | hc
  · exact inNumber_of_isDigit (hd _ List.mem_cons_self)
  · split_ifs at hc with hr
    · simp at hc
    · rcases List.mem_cons.1 hc with rfl | hc
      · rfl
      · exact inNumber_of_isDigit (hd _ (List.mem_cons_of_mem _ hc))
  · rfl
  · split_ifs <;> rfl
  · exact inNumber_of_isDigit (isDigit_toDigits hc)

/-- the text of a number: its sign, and a text without sign whose value reads back to the number -/
theorem text_spec (x : Binary64) :
    ∃ body, (Number.layout.text x).toList = (if x.negative then ['-'] else []) ++ body ∧ Floating body ∧
      ∃ d : Decimal, value body = d.value ∧ d.readsBackTo x = true := by
  have hsign : (if x.negative then "-" else "").toList = if x.negative then ['-'] else [] := by
    split_ifs <;> rfl
  unfold text
  by_cases hx : x.place = 0
  · refine ⟨"0.0".toList, ?_, ?_, ⟨0, 0⟩, ?_, ?_⟩
    · simp [hx, hsign, Number.layout]
    · have h : Floating (['0'] ++ '.' :: ['0']) := floating_point (by simp) (by simp [isDigit]) (by simp [isDigit])
      exact h
    · have h : value (['0'] ++ '.' :: ['0'] ++ []) = _ :=
        value_point (by simp [isDigit]) (by simp [isDigit]) (Or.inl rfl)
      exact h.trans (by simp [natOfDigits, digitValue, Decimal.value])
    · exact x.zero_readsBackTo hx
  · rw [if_neg hx]
    have hread := x.shortest_readsBackTo hx
    by_cases hpos : Number.layout.lowestPoint ≤ (toString x.shortest.digits).length + x.shortest.exponent ∧
        (toString x.shortest.digits).length + x.shortest.exponent ≤ Number.layout.highestPoint
    · refine ⟨_, ?_, floating_positional _ _, x.shortest, value_positional _, hread⟩
      simp only [if_pos hpos, String.toList_append, hsign]
    · refine ⟨_, ?_, floating_scientific _ _, x.shortest, value_scientific _, hread⟩
      simp only [if_neg hpos, String.toList_append, hsign]

end Numeric.DecimalLayout

/-! ## Number texts -/

namespace Number

open Numeric Numeric.DecimalLayout

/-- a digit stands first in a text without sign, so a sign can be cut off -/
theorem sign_cut {p q : Bool} {a b : List Char} (ha : ∃ c rest, a = c :: rest ∧ isDigit c = true)
    (hb : ∃ c rest, b = c :: rest ∧ isDigit c = true)
    (h : (if p then ['-'] else []) ++ a = (if q then ['-'] else []) ++ b) : p = q ∧ a = b := by
  obtain ⟨c, s, rfl, hc⟩ := ha
  obtain ⟨d, t, rfl, hd⟩ := hb
  cases p <;> cases q
  · exact ⟨rfl, h⟩
  · exact absurd (List.cons.inj h).1 (DecimalText.digit_ne hc).2.2
  · exact absurd (List.cons.inj h).1.symm (DecimalText.digit_ne hd).2.2
  · exact ⟨rfl, (List.cons.inj h).2⟩

theorem toList_intText (i : ℤ) :
    (toString i).toList = (if decide (i < 0) then ['-'] else []) ++ Nat.toDigits 10 i.natAbs := by
  cases i with
  | ofNat n =>
    rw [if_neg (by simp)]
    exact toList_toString n
  | negSucc n =>
    rw [if_pos (by simp)]
    show ("-" ++ toString (n + 1)).toList = _
    rw [String.toList_append, toList_toString]
    rfl

theorem toDigits_first (n : Nat) : ∃ c rest, Nat.toDigits 10 n = c :: rest ∧ isDigit c = true := by
  obtain ⟨c, rest, hcons⟩ := List.exists_cons_of_ne_nil (Nat.toDigits_ne_nil (n := n) (b := 10))
  exact ⟨c, rest, hcons, isDigit_toDigits (n := n) (by rw [hcons]; exact List.mem_cons_self)⟩

/-- an integer is determined by its text -/
theorem intText_injective {i j : ℤ} (h : toString i = toString j) : i = j := by
  have hlist := congrArg String.toList h
  rw [toList_intText, toList_intText] at hlist
  obtain ⟨hsign, hdigits⟩ := sign_cut (toDigits_first _) (toDigits_first _) hlist
  have habs : i.natAbs = j.natAbs := by
    rw [← natOfDigits_toDigits i.natAbs, hdigits, natOfDigits_toDigits]
  have : i < 0 ↔ j < 0 := by simpa using hsign
  omega

/-- **A floating number is determined by its text.** -/
theorem floatText_injective {x y : Binary64} (h : layout.text x = layout.text y) : x = y := by
  obtain ⟨left, hleft, hfx, dx, hvx, hrx⟩ := text_spec x
  obtain ⟨right, hright, hfy, dy, hvy, hry⟩ := text_spec y
  have hlist : (if x.negative then ['-'] else []) ++ left = (if y.negative then ['-'] else []) ++ right := by
    rw [← hleft, ← hright, h]
  obtain ⟨hsign, hbody⟩ := sign_cut hfx.first hfy.first hlist
  have hvalue : dx.value = dy.value := by rw [← hvx, ← hvy, hbody]
  rw [Decimal.readsBackTo_iff] at hrx hry
  rw [hsign, Binary64.ofDecimal?_of_value_eq _ hvalue, hry] at hrx
  exact (Option.some.inj hrx).symm

/-- the text of an integer has neither point nor exponent mark -/
theorem int_unmarked (i : ℤ) : '.' ∉ (toString i).toList ∧ 'e' ∉ (toString i).toList := by
  have hd : ∀ c ∈ Nat.toDigits 10 i.natAbs, isDigit c = true := fun c hc => isDigit_toDigits hc
  rw [toList_intText]
  constructor
  · intro hc
    rcases List.mem_append.1 hc with hc | hc
    · split_ifs at hc <;> simp at hc
    · exact (DecimalText.digit_ne (hd _ hc)).2.1 rfl
  · intro hc
    rcases List.mem_append.1 hc with hc | hc
    · split_ifs at hc <;> simp at hc
    · exact (DecimalText.digit_ne (hd _ hc)).1 rfl

theorem float_marked (x : Binary64) : '.' ∈ (layout.text x).toList ∨ 'e' ∈ (layout.text x).toList := by
  obtain ⟨body, hbody, hf, -⟩ := text_spec x
  rw [hbody]
  exact hf.marked.imp (List.mem_append_right _) (List.mem_append_right _)

/-- **A number is determined by its text.** The two classes of numbers differ in a point or an exponent mark. -/
theorem text_injective {m n : Number} (h : m.text = n.text) : m = n := by
  cases m with
  | int i =>
    cases n with
    | int j => rw [intText_injective h]
    | float y =>
      have hy := float_marked y
      rw [show layout.text y = toString i from h.symm] at hy
      exact absurd hy (by have := int_unmarked i; tauto)
  | float x =>
    cases n with
    | int j =>
      have hx := float_marked x
      rw [show layout.text x = toString j from h] at hx
      exact absurd hx (by have := int_unmarked j; tauto)
    | float y => rw [floatText_injective h]

theorem text_ne_nil (n : Number) : n.text.toList ≠ [] := by
  cases n with
  | int i =>
    show (toString i).toList ≠ []
    rw [toList_intText]
    simp [Nat.toDigits_ne_nil]
  | float x =>
    obtain ⟨body, hbody, hf, -⟩ := text_spec x
    obtain ⟨c, rest, hc, -⟩ := hf.first
    show (layout.text x).toList ≠ []
    rw [hbody, hc]
    simp

/-- every character of a number's text can stand in a number -/
theorem inNumber_of_mem_text {n : Number} {c : Char} (hc : c ∈ n.text.toList) : Json.Reader.inNumber c = true := by
  cases n with
  | int i =>
    have hc' : c ∈ (toString i).toList := hc
    rw [toList_intText] at hc'
    rcases List.mem_append.1 hc' with hc' | hc'
    · split_ifs at hc' <;> simp at hc'
      subst hc'; rfl
    · exact inNumber_of_isDigit (isDigit_toDigits hc')
  | float x =>
    obtain ⟨body, hbody, hf, -⟩ := text_spec x
    have hc' : c ∈ (layout.text x).toList := hc
    rw [hbody] at hc'
    rcases List.mem_append.1 hc' with hc' | hc'
    · split_ifs at hc' <;> simp at hc'
      subst hc'; rfl
    · exact hf.chars c hc'

end Number

end DocumentModels
