/-
Literals of emitted modules can be read back.

- `objectKey_cut`: a key is cut off at the colon behind it, in either spelling.
- `scanBody_regexBody`: the body of a regular expression ends at the first slash that no backslash escapes, if the
  pattern is closed, that is if its last backslash escapes something (`endsLoose`).
- `regexLiteral_cut`: a regular expression is cut off the front of a text.
-/
import Mathlib.Tactic
import DocumentModels.Emit.Literal
import DocumentModels.Proofs.Json.CompactText

namespace DocumentModels.Emit

/-! ## Keys -/

theorem isIdentifier_chars {name : String} (h : isIdentifier name = true) :
    ∃ c rest, name.toList = c :: rest ∧ ∀ d ∈ name.toList, isIdentifierChar d = true := by
  unfold isIdentifier at h
  cases hname : name.toList with
  | nil => rw [hname] at h; cases h
  | cons c rest =>
    rw [hname] at h
    simp only [Bool.and_eq_true, Bool.or_eq_true, List.all_eq_true, decide_eq_true_eq] at h
    refine ⟨c, rest, rfl, ?_⟩
    intro d hd
    rcases List.mem_cons.1 hd with rfl | hd
    · rcases h.1 with (halpha | hunder) | hdollar
      · simp [isIdentifierChar, Char.isAlphanum, halpha]
      · simp [isIdentifierChar, hunder]
      · simp [isIdentifierChar, hdollar]
    · exact h.2 d hd

/-- an identifier does not begin like a quoted key -/
theorem identifier_ne_quote {a b : String} (ha : isIdentifier a = true) (r s : List Char) :
    a.toList ++ r ≠ (Json.quote b).toList ++ s := by
  obtain ⟨c, rest, hcons, hchars⟩ := isIdentifier_chars ha
  intro h
  rw [hcons, Json.toList_quote, List.cons_append, List.cons_append] at h
  have hquote : isIdentifierChar '"' = true := by
    rw [← (List.cons.inj h).1]
    exact hchars c (by rw [hcons]; exact List.mem_cons_self)
  exact absurd hquote (by decide)

theorem objectKey_cut {a b : String} {r s : List Char}
    (h : (objectKey a).toList ++ ':' :: r = (objectKey b).toList ++ ':' :: s) : a = b ∧ r = s := by
  unfold objectKey at h
  split_ifs at h with ha hb hb
  · obtain ⟨_, _, -, hca⟩ := isIdentifier_chars ha
    obtain ⟨_, _, -, hcb⟩ := isIdentifier_chars hb
    have hcolon : ∀ t : List Char, ∀ c ∈ (':' :: t).head?, isIdentifierChar c = false := by
      intro t c hc
      cases hc
      decide
    obtain ⟨hab, hrs⟩ := Json.cut_of_class hca hcb (hcolon r) (hcolon s) h
    exact ⟨String.toList_injective hab, (List.cons.inj hrs).2⟩
  · exact absurd h (identifier_ne_quote ha _ _)
  · exact absurd h.symm (identifier_ne_quote hb _ _)
  · obtain ⟨hab, hrs⟩ := Json.quote_cut h
    exact ⟨hab, (List.cons.inj hrs).2⟩

/-! ## Regular expressions -/

/-- whether the last character is a backslash that escapes nothing -/
def endsLoose : List Char → Bool
  | [] => false
  | ['\\'] => true
  | '\\' :: _ :: rest => endsLoose rest
  | _ :: rest => endsLoose rest

/-- what stands before the first slash that no backslash escapes, and what follows that slash -/
def scanBody : List Char → List Char × List Char
  | [] => ([], [])
  | '\\' :: c :: rest => ('\\' :: c :: (scanBody rest).1, (scanBody rest).2)
  | c :: rest => if c = '/' then ([], rest) else (c :: (scanBody rest).1, (scanBody rest).2)

theorem scanBody_regexBody (cs : List Char) (hcs : endsLoose cs = false) (r : List Char) :
    scanBody (regexBody cs ++ '/' :: r) = (regexBody cs, r) := by
  induction cs using regexBody.induct with
  | case1 => simp [regexBody, scanBody]
  | case2 => simp [endsLoose] at hcs
  | case3 c rest ih =>
    rw [endsLoose] at hcs
    simp [regexBody, scanBody, ih hcs]
  | case4 rest hlone hescape ih =>
    rw [endsLoose.eq_4 _ _ (by simp) (by simp)] at hcs
    simp [regexBody, scanBody, ih hcs]
  | case5 rest hlone hescape hslash ih =>
    rw [endsLoose.eq_4 _ _ (by simp) (by simp)] at hcs
    simp [regexBody, scanBody, ih hcs]
  | case6 c rest hlone hescape hslash hfeed ih =>
    have hc : c ≠ '\\' := by
      rintro rfl
      cases rest with
      | nil => exact hlone rfl rfl
      | cons d rest => exact hescape d rest rfl rfl
    rw [endsLoose.eq_4 _ _ (fun h _ => hc h) (fun _ _ h _ => hc h)] at hcs
    have hbody : regexBody (c :: rest) = c :: regexBody rest := by
      rw [regexBody.eq_4 _ _ hlone hescape, if_neg hslash, if_neg hfeed]
    rw [hbody, List.cons_append, scanBody.eq_3 _ _ (fun _ _ h _ => hc h), if_neg hslash, ih hcs]

/-- the pattern that a regular expression is written for -/
def written (pattern : String) : List Char := if pattern.isEmpty then "(?:)".toList else pattern.toList

theorem toList_regexLiteral (pattern : String) :
    (regexLiteral pattern).toList = '/' :: regexBody (written pattern) ++ ['/'] := by
  unfold regexLiteral written
  split_ifs
  · rfl
  · simp

theorem endsLoose_written {pattern : String} (h : endsLoose pattern.toList = false) :
    endsLoose (written pattern) = false := by
  unfold written
  split_ifs
  · rfl
  · exact h

theorem regexLiteral_cut {a b : String} {r s : List Char} (ha : endsLoose a.toList = false)
    (hb : endsLoose b.toList = false) (h : (regexLiteral a).toList ++ r = (regexLiteral b).toList ++ s) :
    regexLiteral a = regexLiteral b ∧ r = s := by
  have hscan : ∀ (p : String) (t : List Char), endsLoose p.toList = false →
      scanBody ((regexLiteral p).toList ++ t).tail = (regexBody (written p), t) := by
    intro p t hp
    rw [toList_regexLiteral]
    simpa using scanBody_regexBody _ (endsLoose_written hp) t
  have hpair := (hscan a r ha).symm.trans ((congrArg (fun t => scanBody t.tail) h).trans (hscan b s hb))
  obtain ⟨hbody, hrest⟩ := Prod.mk.inj hpair
  refine ⟨?_, hrest⟩
  apply String.toList_injective
  rw [toList_regexLiteral, toList_regexLiteral, hbody]

end DocumentModels.Emit
