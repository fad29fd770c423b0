/-
Lower case of a part of a text.

Lower case takes characters one by one, and of its surroundings only a capital sigma takes notice: what is next to it on
either side, apart from characters that case looks through. So a part of a text keeps its lower case in every text, unless
its own characters leave the form of a capital sigma open.
- `lowerAfter_append`: a text is lowered part by part, each between what stands before and after it.
- `neighbour?_append`: what is put around a side is seen only if the side itself has nothing to be seen.
- `Steady`: the characters of a part settle the form of every capital sigma in it.
- `lowerPart_of_steady`: a steady part has the same lower case everywhere, by induction on the part.
- `count_lowerPart_le`, `count_lowerPart_lt`: a form that surroundings only ever take away becomes rarer, and is then missed.
- `missed_before_letter`, `missed_after_letter`: where one letter around a part takes a form from it.
- `steady_iff`: a text keeps its lower case inside every text just when it is steady. One letter around it is enough to tell.

Nothing here looks into the tables of cases, apart from what they say of `a`, `openingLetter`.
-/
import Mathlib.Tactic
import DocumentModels.Text.Case

namespace DocumentModels.Text

/-! ## Parts of a text -/

/-- the capital sigma's form inside a word -/
def innerSigma : Char := '\u03C3'

/-- the capital sigma's form at the end of a word -/
def finalSigma : Char := '\u03C2'

/-- the form of a capital sigma between what stands before it, given last character first, and what follows it -/
def sigmaForm (before after : List Char) : Char :=
  if meetsCased before && !meetsCased after then finalSigma else innerSigma

/-- lower case of one character between what stands before and after it -/
def lowerBetween (before : List Char) (c : Char) (after : List Char) : List Char :=
  if c = capitalSigma then [sigmaForm before after] else lowerChar c

/-- lower case of a part of a text that stands between `before`, given last character first, and `after` -/
def lowerPart (before after : List Char) : List Char → List Char
  | [] => []
  | c :: rest => lowerBetween before c (rest ++ after) ++ lowerPart (c :: before) after rest

theorem lowerAfter_cons (before : List Char) (c : Char) (rest : List Char) :
    lowerAfter before (c :: rest) = lowerBetween before c rest ++ lowerAfter (c :: before) rest := rfl

/-- **A text is lowered part by part.** -/
theorem lowerAfter_append (before part after : List Char) :
    lowerAfter before (part ++ after) = lowerPart before after part ++ lowerAfter (part.reverse ++ before) after := by
  induction part generalizing before with
  | nil => rfl
  | cons c rest ih =>
    rw [List.cons_append, lowerAfter_cons, ih, lowerPart, List.append_assoc, List.reverse_cons, List.append_assoc,
      List.singleton_append]

theorem lowerPart_append (before after front back : List Char) :
    lowerPart before after (front ++ back)
      = lowerPart before (back ++ after) front ++ lowerPart (front.reverse ++ before) after back := by
  induction front generalizing before with
  | nil => rfl
  | cons c front ih =>
    rw [List.cons_append, lowerPart, ih, lowerPart, List.append_assoc, List.append_assoc, List.reverse_cons,
      List.append_assoc, List.singleton_append]

theorem lowerAfter_eq (before rest : List Char) : lowerAfter before rest = lowerPart before [] rest := by
  have hwhole := lowerAfter_append before rest []
  rw [List.append_nil] at hwhole
  rw [hwhole, lowerAfter, List.append_nil]

theorem lowerChar_ne_nil (c : Char) : lowerChar c ≠ [] := by
  unfold lowerChar longLower
  by_cases hlong : c.toNat = 0x130
  · simp [hlong]
  · simp [List.lookup_cons, beq_false_of_ne hlong]

/-- no character is lost in lower case -/
theorem lowerAfter_ne_nil {text : List Char} (h : text ≠ []) : lowerAfter [] text ≠ [] := by
  cases text with
  | nil => exact absurd rfl h
  | cons c rest =>
    rw [lowerAfter_cons, lowerBetween]
    split_ifs
    · simp
    · simp [lowerChar_ne_nil]

/-! ## Neighbours -/

/-- what is next on one side, apart from characters that case looks through: whether it is cased, or nothing at all -/
def neighbour? (side : List Char) : Option Bool :=
  (side.find? fun c => !inRanges caseIgnorableRanges c.toNat).map fun c => inRanges casedRanges c.toNat

theorem meetsCased_eq (side : List Char) : meetsCased side = (neighbour? side).getD false := by
  unfold meetsCased neighbour?
  cases side.find? fun c => !inRanges caseIgnorableRanges c.toNat <;> rfl

/-- **What is put around a side is seen only if the side has nothing to be seen.** -/
theorem neighbour?_append (side more : List Char) : neighbour? (side ++ more) = (neighbour? side).or (neighbour? more) := by
  unfold neighbour?
  rw [List.find?_append, Option.map_or]

theorem sigmaForm_eq_final {before after : List Char} :
    sigmaForm before after = finalSigma ↔ neighbour? before = some true ∧ neighbour? after ≠ some true := by
  unfold sigmaForm
  rw [meetsCased_eq, meetsCased_eq]
  rcases neighbour? before with _ | _ | _ <;> rcases neighbour? after with _ | _ | _ <;> decide

theorem sigmaForm_eq_inner {before after : List Char} :
    sigmaForm before after = innerSigma ↔ neighbour? before ≠ some true ∨ neighbour? after = some true := by
  unfold sigmaForm
  rw [meetsCased_eq, meetsCased_eq]
  rcases neighbour? before with _ | _ | _ <;> rcases neighbour? after with _ | _ | _ <;> decide

/-! ## Steady parts -/

/-- the neighbours of a capital sigma settle its form, whatever is put around them -/
def Settled (before after : List Char) : Prop :=
  neighbour? after = some true ∨ neighbour? before = some false ∨
    (neighbour? before = some true ∧ neighbour? after = some false)

/-- **The characters of a part settle the form of every capital sigma in it.** -/
def Steady (part : List Char) : Prop :=
  ∀ front back, part = front ++ capitalSigma :: back → Settled front.reverse back

theorem steady_of_notMem {part : List Char} (h : capitalSigma ∉ part) : Steady part := by
  intro front back hpart
  exact absurd (by rw [hpart]; simp) h

theorem sigmaForm_of_settled {before after : List Char} (h : Settled before after) (outer later : List Char) :
    sigmaForm (before ++ outer) (after ++ later) = sigmaForm before after := by
  unfold sigmaForm
  simp only [meetsCased_eq, neighbour?_append]
  rcases h with hafter | hbefore | ⟨hbefore, hafter⟩
  · simp [hafter]
  · simp [hbefore]
  · simp [hbefore, hafter]

/-- a part has one lower case in two surroundings that give its capital sigmas the same forms -/
theorem lowerPart_congr {part before after outer later : List Char}
    (h : ∀ front back, part = front ++ capitalSigma :: back →
      sigmaForm (front.reverse ++ before) (back ++ after) = sigmaForm (front.reverse ++ outer) (back ++ later)) :
    lowerPart before after part = lowerPart outer later part := by
  induction part generalizing before outer with
  | nil => rfl
  | cons c rest ih =>
    have hfirst : lowerBetween before c (rest ++ after) = lowerBetween outer c (rest ++ later) := by
      unfold lowerBetween
      split_ifs with hc
      · subst hc
        exact congrArg (fun form => [form]) (h [] rest rfl)
      · rfl
    rw [lowerPart, lowerPart, hfirst]
    refine congrArg _ (ih ?_)
    intro front back hrest
    have hboth := h (c :: front) back (by rw [hrest, List.cons_append])
    simpa using hboth

/-- **A steady part has the same lower case in every text.** -/
theorem lowerPart_of_steady {part : List Char} (h : Steady part) (before after : List Char) :
    lowerPart before after part = lowerAfter [] part := by
  rw [lowerAfter_eq]
  apply lowerPart_congr
  intro front back hpart
  rw [sigmaForm_of_settled (h front back hpart), List.append_nil, List.append_nil]

/-! ## Parts that are not steady -/

section Rarer

variable {form : Char} {before after outer later : List Char}

/-- surroundings never give a capital sigma of a part a form that it does not have in others -/
def OnlyTake (form : Char) (before after outer later part : List Char) : Prop :=
  ∀ front back, part = front ++ capitalSigma :: back →
    sigmaForm (front.reverse ++ before) (back ++ after) = form → sigmaForm (front.reverse ++ outer) (back ++ later) = form

theorem count_lowerPart_le {part : List Char} (h : OnlyTake form before after outer later part) :
    (lowerPart before after part).count form ≤ (lowerPart outer later part).count form := by
  induction part generalizing before outer with
  | nil => exact le_rfl
  | cons c rest ih =>
    have hrest : OnlyTake form (c :: before) after (c :: outer) later rest := by
      intro front back hpart
      have hboth := h (c :: front) back (by rw [hpart, List.cons_append])
      simpa using hboth
    have hfirst : (lowerBetween before c (rest ++ after)).count form ≤ (lowerBetween outer c (rest ++ later)).count form := by
      unfold lowerBetween
      split_ifs with hc
      · subst hc
        by_cases hform : sigmaForm before (rest ++ after) = form
        · rw [hform, show sigmaForm outer (rest ++ later) = form from h [] rest rfl hform]
        · simp [List.count_singleton, hform]
      · exact le_rfl
    rw [lowerPart, lowerPart, List.count_append, List.count_append]
    exact Nat.add_le_add hfirst (ih hrest)

/-- and where they take the form from one capital sigma, it is rarer in the part -/
theorem count_lowerPart_lt {front back : List Char}
    (h : OnlyTake form before after outer later (front ++ capitalSigma :: back))
    (htaken : sigmaForm (front.reverse ++ before) (back ++ after) ≠ form)
    (hkept : sigmaForm (front.reverse ++ outer) (back ++ later) = form) :
    (lowerPart before after (front ++ capitalSigma :: back)).count form
      < (lowerPart outer later (front ++ capitalSigma :: back)).count form := by
  have hfront : OnlyTake form before (capitalSigma :: back ++ after) outer (capitalSigma :: back ++ later) front := by
    intro first rest hpart
    have hboth := h first (rest ++ capitalSigma :: back) (by rw [hpart]; simp)
    simpa using hboth
  have hback : OnlyTake form (capitalSigma :: (front.reverse ++ before)) after (capitalSigma :: (front.reverse ++ outer))
      later back := by
    intro first rest hpart
    have hboth := h (front ++ capitalSigma :: first) rest (by rw [hpart]; simp)
    simpa using hboth
  have hfrontLe := count_lowerPart_le hfront
  have hbackLe := count_lowerPart_le hback
  have hsigma : ∀ before after, lowerBetween before capitalSigma after = [sigmaForm before after] := fun _ _ => if_pos rfl
  have hnone : List.count form [sigmaForm (front.reverse ++ before) (back ++ after)] = 0 :=
    List.count_eq_zero_of_not_mem (by simpa using htaken.symm)
  simp only [lowerPart_append, lowerPart, List.count_append, hsigma, hkept, List.count_singleton_self, hnone]
  omega

/-- a text is missed where it stands in surroundings that take a form from it, if they do not have the form themselves -/
theorem not_isInfix_of_taken {front back first last : List Char}
    (h : OnlyTake form before after [] [] (front ++ capitalSigma :: back))
    (htaken : sigmaForm (front.reverse ++ before) (back ++ after) ≠ form) (hkept : sigmaForm front.reverse back = form)
    (hfirst : form ∉ first) (hlast : form ∉ last) :
    ¬lowerAfter [] (front ++ capitalSigma :: back)
      <:+: first ++ lowerPart before after (front ++ capitalSigma :: back) ++ last := by
  intro hinfix
  have hkept' : sigmaForm (front.reverse ++ []) (back ++ []) = form := by simpa using hkept
  have hrarer := count_lowerPart_lt h htaken hkept'
  have hcount := hinfix.sublist.count_le form
  rw [lowerAfter_eq, List.count_append, List.count_append, List.count_eq_zero_of_not_mem hfirst,
    List.count_eq_zero_of_not_mem hlast] at hcount
  omega

end Rarer

/-- a letter that is cased and is its own lower case -/
def openingLetter : Char := 'a'

theorem neighbour?_openingLetter : neighbour? [openingLetter] = some true := by decide +kernel

theorem lowerChar_openingLetter : lowerChar openingLetter = [openingLetter] := by decide +kernel

theorem lowerAfter_cons_openingLetter (before rest : List Char) :
    lowerAfter before (openingLetter :: rest) = openingLetter :: lowerAfter (openingLetter :: before) rest := by
  rw [lowerAfter_cons, lowerBetween, if_neg (by decide), lowerChar_openingLetter, List.singleton_append]

/-- a final sigma with nothing after it but what case looks through becomes an inner one by a letter after the part -/
theorem missed_before_letter {front back : List Char} (hbefore : neighbour? front.reverse = some true)
    (hafter : neighbour? back = none) :
    ¬lowerAfter [] (front ++ capitalSigma :: back)
      <:+: lowerAfter [] ([] ++ (front ++ capitalSigma :: back) ++ [openingLetter]) := by
  have hlower : lowerAfter [] ([] ++ (front ++ capitalSigma :: back) ++ [openingLetter])
      = [] ++ lowerPart [] [openingLetter] (front ++ capitalSigma :: back) ++ [openingLetter] := by
    rw [List.nil_append, lowerAfter_append, lowerAfter_cons_openingLetter, lowerAfter, List.nil_append]
  have honly : OnlyTake finalSigma [] [openingLetter] [] [] (front ++ capitalSigma :: back) := by
    intro first last _ hfinal
    rw [sigmaForm_eq_final, neighbour?_append last] at hfinal
    rw [sigmaForm_eq_final, List.append_nil last]
    refine ⟨hfinal.1, ?_⟩
    intro hlast
    exact hfinal.2 (by rw [hlast, Option.some_or])
  have htaken : sigmaForm (front.reverse ++ []) (back ++ [openingLetter]) ≠ finalSigma := by
    rw [ne_eq, sigmaForm_eq_final, neighbour?_append back, hafter, neighbour?_openingLetter]
    simp
  have hkept : sigmaForm front.reverse back = finalSigma := by
    rw [sigmaForm_eq_final, hafter]
    exact ⟨hbefore, by simp⟩
  rw [hlower]
  exact not_isInfix_of_taken honly htaken hkept (by simp) (by decide)

/-- an inner sigma with nothing before it but what case looks through becomes a final one by a letter before the part -/
theorem missed_after_letter {front back : List Char} (hbefore : neighbour? front.reverse = none)
    (hafter : neighbour? back ≠ some true) :
    ¬lowerAfter [] (front ++ capitalSigma :: back)
      <:+: lowerAfter [] ([openingLetter] ++ (front ++ capitalSigma :: back) ++ []) := by
  have hlower : lowerAfter [] ([openingLetter] ++ (front ++ capitalSigma :: back) ++ [])
      = [openingLetter] ++ lowerPart [openingLetter] [] (front ++ capitalSigma :: back) ++ [] := by
    rw [List.append_nil, List.append_nil, List.singleton_append, lowerAfter_cons_openingLetter, lowerAfter_eq,
      List.singleton_append]
  have honly : OnlyTake innerSigma [openingLetter] [] [] [] (front ++ capitalSigma :: back) := by
    intro first last _ hinner
    rw [sigmaForm_eq_inner, neighbour?_append first.reverse] at hinner
    rw [sigmaForm_eq_inner, List.append_nil first.reverse]
    refine hinner.imp_left ?_
    intro hne hfirst
    exact hne (by rw [hfirst, Option.some_or])
  have htaken : sigmaForm (front.reverse ++ [openingLetter]) (back ++ []) ≠ innerSigma := by
    rw [ne_eq, sigmaForm_eq_inner, neighbour?_append front.reverse, hbefore, neighbour?_openingLetter, List.append_nil]
    simp [hafter]
  have hkept : sigmaForm front.reverse back = innerSigma := by
    rw [sigmaForm_eq_inner, hbefore]
    exact Or.inl (by simp)
  rw [hlower]
  exact not_isInfix_of_taken honly htaken hkept (by decide) (by simp)

/-- **A part that is not steady is missed** in some text that it stands in, with a letter before or after it. -/
theorem exists_missed {part : List Char} (h : ¬Steady part) :
    ∃ before after, ¬lowerAfter [] part <:+: lowerAfter [] (before ++ part ++ after) := by
  unfold Steady at h
  push Not at h
  obtain ⟨front, back, rfl, hsettled⟩ := h
  simp only [Settled, not_or, not_and] at hsettled
  obtain ⟨hafter, hbefore, hboth⟩ := hsettled
  rcases hfront : neighbour? front.reverse with _ | _ | _
  · exact ⟨[openingLetter], [], missed_after_letter hfront hafter⟩
  · exact absurd hfront hbefore
  · rcases hback : neighbour? back with _ | _ | _
    · exact ⟨[], [openingLetter], missed_before_letter hfront hback⟩
    · exact absurd hback (hboth hfront)
    · exact absurd hback hafter

/-- **A text keeps its lower case inside every text just when it is steady.** -/
theorem steady_iff {part : List Char} :
    Steady part ↔ ∀ before after, lowerAfter [] part <:+: lowerAfter [] (before ++ part ++ after) := by
  refine ⟨?_, ?_⟩
  · intro h before after
    rw [List.append_assoc, lowerAfter_append, lowerAfter_append, lowerPart_of_steady h, ← List.append_assoc]
    exact List.infix_append _ _ _
  · intro h
    by_contra hsteady
    obtain ⟨before, after, hmissed⟩ := exists_missed hsteady
    exact hmissed (h before after)

end DocumentModels.Text
