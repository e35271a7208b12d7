import Mathlib.Data.List.DropRight
import TypedTemplate.Text.Basic
/-!
# The parts of a text

A text is cut at the first occurrence of a character, split at all of them, and trimmed of the blanks
around it. What the parts are follows from how they join again and from the character they do not hold,
so a proof about something written can name its parts instead of following the recursion that finds
them.
-/

namespace TypedTemplate

namespace Text

variable {sep : Char} {t : Text}

/-! ### Cutting at the first occurrence -/

theorem cut_of_not_mem (h : sep ∉ t) : cut sep t = (t, none) := by
  induction t with
  | nil => rfl
  | cons c t ih =>
      rw [List.mem_cons, not_or] at h
      rw [cut, if_neg (Ne.symm h.1), ih h.2]

theorem cut_append_cons {before : Text} (h : sep ∉ before) (after : Text) :
    cut sep (before ++ sep :: after) = (before, some after) := by
  induction before with
  | nil => rw [List.nil_append, cut, if_pos rfl]
  | cons c before ih =>
      rw [List.mem_cons, not_or] at h
      rw [List.cons_append, cut, if_neg (Ne.symm h.1), ih h.2]

/-- The first `sep` of a text tells what stands before it from what stands behind it. -/
theorem append_cons_inj {before before' after after' : Text} (hbefore : sep ∉ before) (hbefore' : sep ∉ before')
    (h : before ++ sep :: after = before' ++ sep :: after') : before = before' ∧ after = after' := by
  have hcut := congrArg (cut sep) h
  rw [cut_append_cons hbefore, cut_append_cons hbefore'] at hcut
  obtain ⟨hfront, hback⟩ := Prod.mk.inj hcut
  exact ⟨hfront, Option.some.inj hback⟩

theorem cut_cases (sep : Char) (t : Text) :
    (sep ∉ t ∧ cut sep t = (t, none))
      ∨ ∃ before after, t = before ++ sep :: after ∧ sep ∉ before
        ∧ cut sep t = (before, some after) := by
  by_cases h : sep ∈ t
  · obtain ⟨before, after, rfl, hfree⟩ := List.eq_append_cons_of_mem h
    exact .inr ⟨before, after, rfl, hfree, cut_append_cons hfree after⟩
  · exact .inl ⟨h, cut_of_not_mem h⟩

/-! ### Splitting at every occurrence -/

/-- The text whose pieces are joined by `sep`: the first piece, and every further one behind a `sep`. -/
def joined (sep : Char) (head : Text) (items : List Text) : Text :=
  head ++ items.flatMap (sep :: ·)

theorem joined_cons (sep : Char) (head item : Text) (items : List Text) :
    joined sep head (item :: items) = head ++ sep :: joined sep item items := by
  simp [joined]

theorem split_cons (sep c : Char) (t : Text) :
    split sep (c :: t)
      = if c = sep then ([], (split sep t).1 :: (split sep t).2)
        else (c :: (split sep t).1, (split sep t).2) :=
  rfl

theorem joined_split (sep : Char) (t : Text) : joined sep (split sep t).1 (split sep t).2 = t := by
  induction t with
  | nil => rfl
  | cons c t ih =>
      rw [split_cons]
      by_cases hc : c = sep
      · rw [if_pos hc, joined_cons, ih, hc, List.nil_append]
      · rw [if_neg hc, joined, List.cons_append, ← joined, ih]

theorem not_mem_of_mem_split {piece : Text} (h : piece ∈ (split sep t).1 :: (split sep t).2) :
    sep ∉ piece := by
  induction t generalizing piece with
  | nil =>
      obtain rfl := List.mem_singleton.mp h
      exact List.not_mem_nil
  | cons c t ih =>
      rw [split_cons] at h
      by_cases hc : c = sep
      · rw [if_pos hc] at h
        rcases List.mem_cons.mp h with rfl | hrest
        · exact List.not_mem_nil
        · exact ih hrest
      · rw [if_neg hc] at h
        rcases List.mem_cons.mp h with rfl | hitem
        · rw [List.mem_cons, not_or]
          exact ⟨Ne.symm hc, ih List.mem_cons_self⟩
        · exact ih (List.mem_cons_of_mem _ hitem)

theorem split_of_not_mem (h : sep ∉ t) : split sep t = (t, []) := by
  induction t with
  | nil => rfl
  | cons c t ih =>
      rw [List.mem_cons, not_or] at h
      rw [split_cons, if_neg (Ne.symm h.1), ih h.2]

theorem count_eq_length_split (sep : Char) (t : Text) : t.count sep = (split sep t).2.length := by
  induction t with
  | nil => rfl
  | cons c t ih =>
      rw [split_cons]
      by_cases hc : c = sep
      · rw [if_pos hc, hc, List.count_cons_self, List.length_cons, ih]
      · rw [if_neg hc, List.count_cons_of_ne hc, ih]

theorem split_append_cons {piece : Text} (h : sep ∉ piece) (rest : Text) :
    split sep (piece ++ sep :: rest) = (piece, (split sep rest).1 :: (split sep rest).2) := by
  induction piece with
  | nil => rw [List.nil_append, split_cons, if_pos rfl]
  | cons c piece ih =>
      rw [List.mem_cons, not_or] at h
      rw [List.cons_append, split_cons, if_neg (Ne.symm h.1), ih h.2]

theorem split_joined {head : Text} {items : List Text} (h : ∀ piece ∈ head :: items, sep ∉ piece) :
    split sep (joined sep head items) = (head, items) := by
  induction items generalizing head with
  | nil =>
      rw [joined, List.flatMap_nil, List.append_nil]
      exact split_of_not_mem (h head List.mem_cons_self)
  | cons item items ih =>
      rw [List.forall_mem_cons] at h
      rw [joined_cons, split_append_cons h.1, ih h.2]

/-- The pieces of a text are the ones that join to it and do not hold the character. -/
theorem split_eq_iff {head : Text} {items : List Text} :
    split sep t = (head, items)
      ↔ t = joined sep head items ∧ ∀ piece ∈ head :: items, sep ∉ piece := by
  constructor
  · intro h
    have hjoined := joined_split sep t
    have hfree : ∀ piece ∈ (split sep t).1 :: (split sep t).2, sep ∉ piece :=
      fun _ => not_mem_of_mem_split
    rw [h] at hjoined hfree
    exact ⟨hjoined.symm, hfree⟩
  · rintro ⟨rfl, hfree⟩
    exact split_joined hfree

/-! ### Trimming -/

theorem trimStart_trim (t : Text) : trimStart (trim t) = trim t := by
  rw [trimStart, List.dropWhile_eq_self_iff]
  intro hpos
  have hprefix : trim t <+: t.dropWhile isBlank := List.rdropWhile_prefix isBlank _
  have hlength := Nat.lt_of_lt_of_le hpos hprefix.length_le
  have hfirst := List.dropWhile_get_zero_not isBlank t hlength
  rwa [List.get_eq_getElem, ← List.IsPrefix.getElem hprefix hpos] at hfirst

theorem dropWhile_eq_self {p : Char → Bool} (h : ∀ c ∈ t.head?, p c = false) : t.dropWhile p = t := by
  cases t with
  | nil => rfl
  | cons c t => rw [List.dropWhile_cons_of_neg (by simp [h c rfl])]

theorem trim_eq_self (hfirst : ∀ c ∈ t.head?, isBlank c = false)
    (hlast : ∀ c ∈ t.getLast?, isBlank c = false) : trim t = t := by
  rw [← List.head?_reverse] at hlast
  rw [trim, trimStart, dropWhile_eq_self hfirst, trimEnd, dropWhile_eq_self hlast, List.reverse_reverse]

theorem trim_trim (t : Text) : (trim t).trim = trim t := by
  rw [trim, trimStart_trim]
  exact List.rdropWhile_idempotent isBlank (trimStart t)

/-! ### Blanks around -/

/-- A text of blanks. -/
def Blanks (t : Text) : Prop :=
  ∀ c ∈ t, isBlank c = true

variable {blanks : Text}

theorem blanks_nil : Blanks [] := fun _ hc => absurd hc List.not_mem_nil

theorem dropWhile_append_cons {p : Char → Bool} (front : Text) {c : Char} (hc : p c = false) (back : Text) :
    (front ++ c :: back).dropWhile p = front.dropWhile p ++ c :: back := by
  induction front with
  | nil => rw [List.nil_append, List.dropWhile_cons_of_neg (by simp [hc]), List.dropWhile_nil, List.nil_append]
  | cons d front ih =>
      rw [List.cons_append]
      by_cases hd : p d = true
      · rw [List.dropWhile_cons_of_pos hd, List.dropWhile_cons_of_pos hd, ih]
      · rw [List.dropWhile_cons_of_neg hd, List.dropWhile_cons_of_neg hd, List.cons_append]

theorem trimStart_append_cons (front : Text) {c : Char} (hc : isBlank c = false) (back : Text) :
    trimStart (front ++ c :: back) = trimStart front ++ c :: back :=
  dropWhile_append_cons front hc back

theorem trimEnd_append_cons (front : Text) {c : Char} (hc : isBlank c = false) (back : Text) :
    trimEnd (front ++ c :: back) = front ++ c :: trimEnd back := by
  have hreverse : (front ++ c :: back).reverse = back.reverse ++ c :: front.reverse := by simp
  rw [trimEnd, trimEnd, hreverse, dropWhile_append_cons _ hc]
  simp

/-- Around a character that is no blank a text is trimmed on the outer sides only. -/
theorem trim_append_cons (front : Text) {c : Char} (hc : isBlank c = false) (back : Text) :
    trim (front ++ c :: back) = trimStart front ++ c :: trimEnd back := by
  rw [trim, trimStart_append_cons front hc, trimEnd_append_cons _ hc]

theorem trimEnd_append_blanks (h : Blanks blanks) (t : Text) : trimEnd (t ++ blanks) = trimEnd t := by
  have hreverse : ∀ c ∈ blanks.reverse, isBlank c = true := fun c hc => h c (List.mem_reverse.mp hc)
  rw [trimEnd, List.reverse_append, List.dropWhile_append_of_pos hreverse, trimEnd]

theorem trim_blanks_append (h : Blanks blanks) (t : Text) : trim (blanks ++ t) = trim t := by
  rw [trim, trimStart, List.dropWhile_append_of_pos h, trim, trimStart]

theorem trim_of_blanks (h : Blanks blanks) : trim blanks = [] := by
  have hnil := trim_blanks_append h []
  rwa [List.append_nil] at hnil

theorem trimStart_eq_nil_iff : trimStart t = [] ↔ Blanks t :=
  List.dropWhile_eq_nil_iff

theorem trim_append_blanks (h : Blanks blanks) (t : Text) : trim (t ++ blanks) = trim t := by
  rw [trim, trimStart, List.dropWhile_append]
  split
  · next hnil =>
      have ht : Blanks t := trimStart_eq_nil_iff.mp (List.isEmpty_iff.mp hnil)
      rw [trim_of_blanks ht]
      exact trim_of_blanks h
  · rw [trimEnd_append_blanks h]
    rfl

theorem exists_eq_append_trimStart (t : Text) : ∃ front, Blanks front ∧ t = front ++ trimStart t :=
  ⟨t.takeWhile isBlank, fun _ hc => List.mem_takeWhile_imp hc, List.takeWhile_append_dropWhile.symm⟩

theorem exists_eq_trimEnd_append (t : Text) : ∃ back, Blanks back ∧ t = trimEnd t ++ back := by
  refine ⟨(t.reverse.takeWhile isBlank).reverse, fun c hc => ?_, ?_⟩
  · exact List.mem_takeWhile_imp (List.mem_reverse.mp hc)
  · rw [trimEnd, ← List.reverse_append, List.takeWhile_append_dropWhile, List.reverse_reverse]

theorem exists_eq_append_trim (t : Text) :
    ∃ front back, Blanks front ∧ Blanks back ∧ t = front ++ (trim t ++ back) := by
  obtain ⟨front, hfront, ht⟩ := exists_eq_append_trimStart t
  obtain ⟨back, hback, hrest⟩ := exists_eq_trimEnd_append (trimStart t)
  exact ⟨front, back, hfront, hback, by rw [trim, ← hrest, ← ht]⟩

theorem trim_trimStart (t : Text) : trim (trimStart t) = trim t := by
  obtain ⟨front, hfront, ht⟩ := exists_eq_append_trimStart t
  conv_rhs => rw [ht, trim_blanks_append hfront]

theorem trim_trimEnd (t : Text) : trim (trimEnd t) = trim t := by
  obtain ⟨back, hback, ht⟩ := exists_eq_trimEnd_append t
  conv_rhs => rw [ht, trim_append_blanks hback]

end Text

end TypedTemplate
