/-
Compact texts tell values apart.

Every text is read from the left, and what it stands for is cut off the front of whatever follows:
- `number_cut`: a number, where nothing follows that could go on the number (`Ends`);
- `quote_cut`: a quoted string, by undoing one escape after the other (`unescape?`);
- `compact_cut`, `items_cut`, `members_cut`: a value, by induction on it. The first character gives the kind.
`compact_injective` is the case in which nothing follows.
-/
import Mathlib.Data.List.TakeWhile
import Mathlib.Tactic
import DocumentModels.Proofs.Json.NumberText
import DocumentModels.Json.Printer

namespace DocumentModels.Json

/-! ## Cutting texts -/

theorem cut_of_class {p : Char → Bool} {a b r s : List Char} (ha : ∀ c ∈ a, p c = true) (hb : ∀ c ∈ b, p c = true)
    (hr : ∀ c ∈ r.head?, p c = false) (hs : ∀ c ∈ s.head?, p c = false) (h : a ++ r = b ++ s) : a = b ∧ r = s := by
  have htake : ∀ t : List Char, (∀ c ∈ t.head?, p c = false) → t.takeWhile p = [] := by
    intro t ht
    cases t with
    | nil => rfl
    | cons c t => simp [ht c rfl]
  have hab : a = b := by
    have hw := congrArg (List.takeWhile p) h
    rwa [List.takeWhile_append_of_pos ha, List.takeWhile_append_of_pos hb, htake r hr, htake s hs, List.append_nil,
      List.append_nil] at hw
  subst hab
  exact ⟨rfl, List.append_cancel_left h⟩

/-- what follows a value cannot go on a number -/
def Ends (rest : List Char) : Prop := ∀ c ∈ rest.head?, Reader.inNumber c = false

theorem ends_cons {c : Char} (rest : List Char) (hc : Reader.inNumber c = false) : Ends (c :: rest) := by
  intro d hd
  cases hd
  exact hc

theorem number_cut {m n : Number} {r s : List Char} (hr : Ends r) (hs : Ends s)
    (h : m.text.toList ++ r = n.text.toList ++ s) : m = n ∧ r = s := by
  obtain ⟨htext, hrest⟩ :=
    cut_of_class (fun _ hc => Number.inNumber_of_mem_text hc) (fun _ hc => Number.inNumber_of_mem_text hc) hr hs h
  exact ⟨Number.text_injective (String.toList_injective htext), hrest⟩

/-! ## Quoted strings -/

/-- the first character that an escaped text stands for, and what follows -/
def unescape? : List Char → Option (Char × List Char)
  | '\\' :: 'u' :: _ :: _ :: a :: b :: rest => do
    return (Char.ofNat ((← Reader.hexValue? a) * 16 + (← Reader.hexValue? b)), rest)
  | '\\' :: c :: rest => (Reader.shortEscape? c).map fun d => (d, rest)
  | '"' :: _ => none
  | c :: rest => some (c, rest)
  | [] => none

theorem hexValue?_hexDigit : ∀ n < 16, Reader.hexValue? (hexDigit n) = some n := by
  decide

theorem unescape?_escapeChar (c : Char) (rest : List Char) :
    unescape? ((escapeChar c).toList ++ rest) = some (c, rest) := by
  by_cases hown : c ∈ ['"', '\\', '\x08', '\x0c', '\n', '\r', '\t']
  · fin_cases hown <;> rfl
  · simp only [List.mem_cons, List.not_mem_nil, or_false, not_or] at hown
    obtain ⟨h1, h2, h3, h4, h5, h6, h7⟩ := hown
    rw [escapeChar, if_neg h1, if_neg h2, if_neg h3, if_neg h4, if_neg h5, if_neg h6, if_neg h7]
    by_cases hcontrol : c.toNat < 32
    · have ha := hexValue?_hexDigit (c.toNat / 16) (by omega)
      have hb := hexValue?_hexDigit (c.toNat % 16) (by omega)
      have hc : c.toNat / 16 * 16 + c.toNat % 16 = c.toNat := by omega
      simp [hcontrol, unescape?, ha, hb, hc]
    · rw [if_neg hcontrol, String.toList_singleton, List.singleton_append]
      unfold unescape?
      split <;> simp_all

/-- the characters of a string between its quotes -/
def escaped (s : List Char) : List Char := s.flatMap fun c => (escapeChar c).toList

theorem toList_quote (s : String) : (quote s).toList = '"' :: escaped s.toList ++ ['"'] := by
  simp [quote, escaped, List.flatMap_map]

theorem escaped_cut (s t : List Char) {r u : List Char} (h : escaped s ++ '"' :: r = escaped t ++ '"' :: u) :
    s = t ∧ r = u := by
  induction s generalizing t with
  | nil =>
    cases t with
    | nil => exact ⟨rfl, (List.cons.inj h).2⟩
    | cons d t =>
      have hd := unescape?_escapeChar d (escaped t ++ '"' :: u)
      simp only [escaped, List.flatMap_nil, List.nil_append, List.flatMap_cons, List.append_assoc] at h hd
      rw [← h] at hd
      simp [unescape?] at hd
  | cons c s ih =>
    have hc := unescape?_escapeChar c (escaped s ++ '"' :: r)
    cases t with
    | nil =>
      simp only [escaped, List.flatMap_nil, List.nil_append, List.flatMap_cons, List.append_assoc] at h hc
      rw [h] at hc
      simp [unescape?] at hc
    | cons d t =>
      have hd := unescape?_escapeChar d (escaped t ++ '"' :: u)
      have h' : (escapeChar c).toList ++ (escaped s ++ '"' :: r) = (escapeChar d).toList ++ (escaped t ++ '"' :: u) := by
        simpa [escaped, List.append_assoc] using h
      rw [h', hd] at hc
      simp only [Option.some.injEq, Prod.mk.injEq] at hc
      obtain ⟨hst, hru⟩ := ih t hc.2.symm
      exact ⟨by rw [hst, hc.1], hru⟩

theorem quote_cut {s t : String} {r u : List Char} (h : (quote s).toList ++ r = (quote t).toList ++ u) :
    s = t ∧ r = u := by
  rw [toList_quote, toList_quote] at h
  simp only [List.cons_append, List.append_assoc, List.nil_append, List.cons.injEq, true_and] at h
  obtain ⟨hst, hru⟩ := escaped_cut _ _ h
  exact ⟨String.toList_injective hst, hru⟩

/-! ## Values -/

/-- the kind of the value whose text begins with a character -/
def kindOfFirst (c : Char) : String :=
  if c = 'n' then "null"
  else if c = 't' ∨ c = 'f' then "boolean"
  else if c = '"' then "string"
  else if c = '[' then "array"
  else if c = '\x7b' then "object"
  else if Reader.inNumber c then "number"
  else ""

theorem compact_first (v : Json) : ∃ c rest, v.compact.toList = c :: rest ∧ kindOfFirst c = v.kindName := by
  cases v with
  | null => exact ⟨'n', _, rfl, by decide⟩
  | bool b => cases b <;> exact ⟨_, _, rfl, by decide⟩
  | number n =>
    obtain ⟨c, rest, hc⟩ := List.exists_cons_of_ne_nil n.text_ne_nil
    refine ⟨c, rest, by rw [compact, hc], ?_⟩
    have hin : Reader.inNumber c = true := n.inNumber_of_mem_text (by rw [hc]; exact List.mem_cons_self)
    have hne : ∀ d, Reader.inNumber d = false → c ≠ d := by
      rintro d hd rfl
      rw [hin] at hd
      cases hd
    simp [kindOfFirst, hin, hne 'n' rfl, hne 't' rfl, hne 'f' rfl, hne '"' rfl, hne '[' rfl, hne '\x7b' rfl, kindName]
  | string s => exact ⟨'"', _, by rw [compact, toList_quote]; rfl, rfl⟩
  | array items => exact ⟨'[', _, by rw [compact]; simp; rfl, rfl⟩
  | object members => exact ⟨'\x7b', _, by rw [compact]; simp; rfl, rfl⟩

/-- texts that follow the first one of a list -/
def tails (texts : List String) : List Char := texts.flatMap fun text => ',' :: text.toList

theorem toList_commaSeparated (text : String) (texts : List String) :
    (",".intercalate (text :: texts)).toList = text.toList ++ tails texts := by
  induction texts generalizing text with
  | nil => simp [tails]
  | cons next texts ih =>
    rw [String.intercalate_cons_cons, String.toList_append, String.toList_append, ih]
    simp [tails]

/-- once the first texts of two lists are cut off, the lists go on alike -/
theorem commaSeparated_of_tails {texts others : List String} {c : Char} {r s : List Char} (hc : ',' ≠ c)
    (h : tails texts ++ c :: r = tails others ++ c :: s) :
    (",".intercalate texts).toList ++ c :: r = (",".intercalate others).toList ++ c :: s := by
  have hcons : ∀ text texts, tails (text :: texts) = ',' :: (",".intercalate (text :: texts)).toList := by
    intro text texts
    rw [toList_commaSeparated]
    rfl
  cases texts with
  | nil =>
    cases others with
    | nil => simpa [tails] using h
    | cons other others =>
      rw [hcons] at h
      exact absurd (List.cons.inj h).1.symm hc
  | cons text texts =>
    cases others with
    | nil =>
      rw [hcons] at h
      exact absurd (List.cons.inj h).1 hc
    | cons other others =>
      rw [hcons, hcons] at h
      exact (List.cons.inj h).2

theorem ends_tails (texts : List String) {c : Char} (hc : Reader.inNumber c = false) (rest : List Char) :
    Ends (tails texts ++ c :: rest) := by
  cases texts with
  | nil => exact ends_cons rest hc
  | cons text texts => exact ends_cons _ rfl

/-- the text of a value does not begin with a closing bracket or brace -/
theorem compact_ne_close (v : Json) {c : Char} (hc : kindOfFirst c = "") (rest rest' : List Char) :
    v.compact.toList ++ rest ≠ c :: rest' := by
  obtain ⟨d, tail, hd, hkind⟩ := v.compact_first
  intro h
  rw [hd, List.cons_append] at h
  rw [(List.cons.inj h).1, hc] at hkind
  cases v <;> simp [kindName] at hkind

/-- values whose texts begin alike are of one kind -/
theorem kindName_of_compact {v w : Json} {r s : List Char} (h : v.compact.toList ++ r = w.compact.toList ++ s) :
    v.kindName = w.kindName := by
  obtain ⟨c, t, hc, hv⟩ := v.compact_first
  obtain ⟨d, u, hd, hw⟩ := w.compact_first
  rw [hc, hd] at h
  rw [← hv, ← hw, (List.cons.inj h).1]

theorem toList_array_compact (items : List Json) :
    (compact (.array items)).toList = '[' :: (",".intercalate (compactItems items)).toList ++ [']'] := by
  simp [compact]

theorem toList_object_compact (members : List (String × Json)) :
    (compact (.object members)).toList = '\x7b' :: (",".intercalate (compactMembers members)).toList ++ ['\x7d'] := by
  simp [compact]

mutual

/-- **A value can be cut off the front of a text.** -/
theorem compact_cut : ∀ (v w : Json) {r s : List Char}, Ends r → Ends s →
    v.compact.toList ++ r = w.compact.toList ++ s → v = w ∧ r = s
  | .null, w, r, s => by
    intro _ _ h
    cases w with
    | null => exact ⟨rfl, List.append_cancel_left h⟩
    | _ => exact absurd (kindName_of_compact h) (by simp [kindName])
  | .bool b, w, r, s => by
    intro _ _ h
    cases w with
    | bool d =>
      cases b <;> cases d
      · exact ⟨rfl, List.append_cancel_left h⟩
      · simp [compact] at h
      · simp [compact] at h
      · exact ⟨rfl, List.append_cancel_left h⟩
    | _ => exact absurd (kindName_of_compact h) (by simp [kindName])
  | .number m, w, r, s => by
    intro hr hs h
    cases w with
    | number n =>
      obtain ⟨rfl, hrs⟩ := number_cut hr hs (by simpa [compact] using h)
      exact ⟨rfl, hrs⟩
    | _ => exact absurd (kindName_of_compact h) (by simp [kindName])
  | .string t, w, r, s => by
    intro _ _ h
    cases w with
    | string u =>
      obtain ⟨rfl, hrs⟩ := quote_cut (by simpa [compact] using h)
      exact ⟨rfl, hrs⟩
    | _ => exact absurd (kindName_of_compact h) (by simp [kindName])
  | .array xs, w, r, s => by
    intro _ _ h
    cases w with
    | array ys =>
      rw [toList_array_compact, toList_array_compact] at h
      simp only [List.cons_append, List.append_assoc, List.nil_append, List.cons.injEq, true_and] at h
      obtain ⟨rfl, hrs⟩ := items_cut xs ys h
      exact ⟨rfl, hrs⟩
    | _ => exact absurd (kindName_of_compact h) (by simp [kindName])
  | .object ms, w, r, s => by
    intro _ _ h
    cases w with
    | object ns =>
      rw [toList_object_compact, toList_object_compact] at h
      simp only [List.cons_append, List.append_assoc, List.nil_append, List.cons.injEq, true_and] at h
      obtain ⟨rfl, hrs⟩ := members_cut ms ns h
      exact ⟨rfl, hrs⟩
    | _ => exact absurd (kindName_of_compact h) (by simp [kindName])

theorem items_cut : ∀ (xs ys : List Json) {r s : List Char},
    (",".intercalate (compactItems xs)).toList ++ ']' :: r = (",".intercalate (compactItems ys)).toList ++ ']' :: s →
      xs = ys ∧ r = s
  | [], [], r, s => fun h => ⟨rfl, (List.cons.inj h).2⟩
  | [], y :: ys, r, s => by
    intro h
    rw [compactItems, compactItems, toList_commaSeparated, List.append_assoc] at h
    exact absurd h.symm (compact_ne_close y rfl _ _)
  | x :: xs, [], r, s => by
    intro h
    rw [compactItems, compactItems, toList_commaSeparated, List.append_assoc] at h
    exact absurd h (compact_ne_close x rfl _ _)
  | x :: xs, y :: ys, r, s => by
    intro h
    rw [compactItems, compactItems, toList_commaSeparated, toList_commaSeparated, List.append_assoc,
      List.append_assoc] at h
    obtain ⟨rfl, hrest⟩ := compact_cut x y (ends_tails _ rfl _) (ends_tails _ rfl _) h
    obtain ⟨rfl, hrs⟩ := items_cut xs ys (commaSeparated_of_tails (by decide) hrest)
    exact ⟨rfl, hrs⟩

theorem members_cut : ∀ (ms ns : List (String × Json)) {r s : List Char},
    (",".intercalate (compactMembers ms)).toList ++ '\x7d' :: r
      = (",".intercalate (compactMembers ns)).toList ++ '\x7d' :: s → ms = ns ∧ r = s
  | [], [], r, s => fun h => ⟨rfl, (List.cons.inj h).2⟩
  | [], (name, y) :: ns, r, s => by
    intro h
    rw [compactMembers, compactMembers, toList_commaSeparated] at h
    simp [toList_quote] at h
  | (name, x) :: ms, [], r, s => by
    intro h
    rw [compactMembers, compactMembers, toList_commaSeparated] at h
    simp [toList_quote] at h
  | (name, x) :: ms, (other, y) :: ns, r, s => by
    intro h
    rw [compactMembers, compactMembers, toList_commaSeparated, toList_commaSeparated] at h
    simp only [String.toList_append, List.append_assoc] at h
    obtain ⟨rfl, hvalue⟩ := quote_cut h
    obtain ⟨rfl, hrest⟩ :=
      compact_cut x y (ends_tails _ rfl _) (ends_tails _ rfl _) (List.append_cancel_left hvalue)
    obtain ⟨rfl, hrs⟩ := members_cut ms ns (commaSeparated_of_tails (by decide) hrest)
    exact ⟨rfl, hrs⟩

end

/-- **A value is determined by its compact text.** -/
theorem compact_injective {v w : Json} (h : v.compact = w.compact) : v = w := by
  have hnil : Ends [] := by intro c hc; cases hc
  exact (compact_cut v w hnil hnil (by rw [h])).1

end DocumentModels.Json
