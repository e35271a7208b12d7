import Mathlib.Data.List.Basic
import TypedTemplate.Proofs.Text.Parts
import TypedTemplate.Report.Place
/-!
# Lines and places

A source is cut into lines, and a part of it that holds no end of line, but for its last character, lies in one of
them. `Lies` says which: it gives the lines above and what stands before and behind the part in its own line. The
place of an offset is read off from there, and no two offsets have the same line and column.
-/

namespace TypedTemplate.Report

/-- The characters that end a line. -/
def lineEnds : List Char :=
  ['\n', '\x0B', '\x0C', '\r', '\x85', '\u2028', '\u2029']

/-- A part of a source that lies in one line, with the lines above it and the rest of its line on both sides. -/
def Lies (source : Text) (above : List Text) (front part tail : Text) : Prop :=
  ∃ below, lines source = above ++ (front ++ (part ++ tail)) :: below

variable {source front part tail : Text} {above : List Text}

/-! ### The line of a part -/

theorem endsLine_eq_false {c : Char} (h : c ∉ lineEnds) (t : Text) : endsLine c t = false := by
  simp only [lineEnds, List.mem_cons, List.not_mem_nil, or_false, not_or] at h
  simp [endsLine, h]

theorem lines_cons (c : Char) (t : Text) : ∃ tail below, lines (c :: t) = (c :: tail) :: below := by
  rw [lines]
  split
  · exact ⟨[], _, rfl⟩
  · cases lines t with
    | nil => exact ⟨[], [], rfl⟩
    | cons line below => exact ⟨line, below, rfl⟩

/-- Nothing but the last character of a part can end its line. -/
theorem exists_lines_append (hne : part ≠ []) (hpart : ∀ c ∈ part.dropLast, c ∉ lineEnds) (after : Text) :
    ∃ tail below, lines (part ++ after) = (part ++ tail) :: below := by
  induction part with
  | nil => exact absurd rfl hne
  | cons c part ih =>
      cases part with
      | nil => exact lines_cons c after
      | cons d part =>
          rw [List.dropLast_cons_of_ne_nil (List.cons_ne_nil d part), List.forall_mem_cons] at hpart
          obtain ⟨tail, below, hlines⟩ := ih (List.cons_ne_nil d part) hpart.2
          refine ⟨tail, below, ?_⟩
          rw [List.cons_append, lines, endsLine_eq_false hpart.1, hlines]
          rfl

/-- Whatever stands before it, a part lies in one line. -/
theorem exists_lies (before : Text) (hne : part ≠ []) (hpart : ∀ c ∈ part.dropLast, c ∉ lineEnds) (after : Text) :
    ∃ above front tail, Lies (before ++ (part ++ after)) above front part tail ∧ before = above.flatten ++ front := by
  induction before with
  | nil =>
      obtain ⟨tail, below, hlines⟩ := exists_lines_append hne hpart after
      exact ⟨[], [], tail, ⟨below, hlines⟩, rfl⟩
  | cons c before ih =>
      obtain ⟨above, front, tail, ⟨below, hlines⟩, hbefore⟩ := ih
      by_cases hends : endsLine c (before ++ (part ++ after)) = true
      · refine ⟨[c] :: above, front, tail, ⟨below, ?_⟩, ?_⟩
        · rw [List.cons_append, lines, if_pos hends, hlines, List.cons_append]
        · rw [hbefore, List.flatten_cons, List.append_assoc, List.singleton_append]
      · cases above with
        | nil =>
            refine ⟨[], c :: front, tail, ⟨below, ?_⟩, by rw [hbefore]; rfl⟩
            rw [List.cons_append, lines, if_neg hends, hlines]
            rfl
        | cons line above =>
            refine ⟨(c :: line) :: above, front, tail, ⟨below, ?_⟩, by rw [hbefore]; rfl⟩
            rw [List.cons_append, lines, if_neg hends, hlines]
            rfl

theorem exists_lies_at {offset : Nat} (h : offset < source.length) :
    ∃ above front c tail, Lies source above front [c] tail ∧ (above.flatten ++ front).length = offset := by
  obtain ⟨above, front, tail, hlies, hbefore⟩ :=
    exists_lies (source.take offset) (List.cons_ne_nil source[offset] []) (by simp) (source.drop (offset + 1))
  rw [List.singleton_append, ← List.drop_eq_getElem_cons h, List.take_append_drop] at hlies
  refine ⟨above, front, _, tail, hlies, ?_⟩
  rw [← hbefore, List.length_take_of_le (Nat.le_of_lt h)]

namespace Lies

theorem length_le (h : Lies source above front part tail) :
    (above.flatten ++ front).length + (part ++ tail).length ≤ source.length := by
  obtain ⟨below, hlines⟩ := h
  have hflatten := flatten_lines source
  rw [hlines, List.flatten_append, List.flatten_cons] at hflatten
  rw [← hflatten]
  simp only [List.length_append]
  omega

theorem unique (h : Lies source above front part tail) {above' : List Text} {front' part' tail' : Text}
    (h' : Lies source above' front' part' tail') (hline : above.length = above'.length)
    (hcolumn : front.length = front'.length) : above = above' ∧ front = front' ∧ part ++ tail = part' ++ tail' := by
  obtain ⟨below, hlines⟩ := h
  obtain ⟨below', hlines'⟩ := h'
  obtain ⟨habove, hrest⟩ := List.append_inj (hlines.symm.trans hlines') hline
  exact ⟨habove, List.append_inj (List.cons.inj hrest).1 hcolumn⟩

end Lies

/-! ### The place of an offset -/

theorem find?_append (above : List Text) (line : Text) (below : List Text) (number : Nat) {start offset : Nat}
    (hstart : start + above.flatten.length ≤ offset) (hstop : offset < start + above.flatten.length + line.length) :
    Place.find? number start offset (above ++ line :: below)
      = some ⟨number + above.length, start + above.flatten.length, line⟩ := by
  induction above generalizing number start with
  | nil =>
      cases below with
      | nil => rfl
      | cons next below => exact if_pos hstop
  | cons first above ih =>
      rw [List.flatten_cons, List.length_append, ← Nat.add_assoc] at hstart hstop ⊢
      have hbehind : ¬offset < start + first.length := by omega
      have hrest := ih (number + 1) hstart hstop
      obtain ⟨next, rest, hnext⟩ := List.exists_cons_of_ne_nil (List.append_ne_nil_of_right_ne_nil above
        (List.cons_ne_nil line below))
      have hstep : Place.find? number start offset (first :: next :: rest)
          = Place.find? (number + 1) (start + first.length) offset (next :: rest) := if_neg hbehind
      rw [List.cons_append, hnext, hstep, ← hnext, hrest, List.length_cons]
      congr 2
      omega

theorem Lies.place?_of_lt (h : Lies source above front part tail) {offset : Nat}
    (hstart : above.flatten.length ≤ offset)
    (hstop : offset < above.flatten.length + (front ++ (part ++ tail)).length) :
    place? source offset = some ⟨above.length + 1, above.flatten.length, front ++ (part ++ tail)⟩ := by
  obtain ⟨below, hlines⟩ := h
  rw [← Nat.zero_add above.flatten.length] at hstart hstop
  rw [place?, hlines, find?_append above _ below 1 hstart hstop, Nat.zero_add, Nat.add_comm 1]

theorem Lies.place?_eq (h : Lies source above front part tail) (hne : part ≠ []) :
    place? source (above.flatten ++ front).length
      = some ⟨above.length + 1, above.flatten.length, front ++ (part ++ tail)⟩ := by
  have hpart := List.length_pos_of_ne_nil hne
  apply h.place?_of_lt
  · simp
  · simp only [List.length_append]
    omega

theorem exists_find? {ls : List Text} (hne : ls ≠ []) (number start offset : Nat) :
    ∃ p, Place.find? number start offset ls = some p := by
  induction ls generalizing number start with
  | nil => exact absurd rfl hne
  | cons line rest ih =>
      cases rest with
      | nil => exact ⟨_, rfl⟩
      | cons next rest =>
          obtain ⟨p, hp⟩ := ih (List.cons_ne_nil next rest) (number + 1) (start + line.length)
          by_cases hline : offset < start + line.length
          · exact ⟨_, if_pos hline⟩
          · exact ⟨p, (if_neg hline).trans hp⟩

theorem Lies.exists_place? (h : Lies source above front part tail) (offset : Nat) :
    ∃ p, place? source offset = some p := by
  obtain ⟨below, hlines⟩ := h
  rw [place?, hlines]
  exact exists_find? (List.append_ne_nil_of_right_ne_nil above (List.cons_ne_nil _ below)) 1 0 offset

theorem Lies.unique_of_length (h : Lies source above front part tail) (hne : part ≠ []) {above' : List Text}
    {front' part' tail' : Text} (h' : Lies source above' front' part' tail') (hne' : part' ≠ [])
    (hlength : (above.flatten ++ front).length = (above'.flatten ++ front').length) :
    above = above' ∧ front = front' ∧ part ++ tail = part' ++ tail' := by
  have hplace := h.place?_eq hne
  rw [hlength, h'.place?_eq hne'] at hplace
  obtain ⟨hline, hstart, _⟩ := Place.mk.inj (Option.some.inj hplace)
  rw [List.length_append, List.length_append] at hlength
  exact h.unique h' (by omega) (by omega)

end TypedTemplate.Report
