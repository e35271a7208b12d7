import TypedTemplate.Template.Scan
/-!
# Segments and the text they stand for

Scanning loses nothing: the segments of a template, each written as it stands there, join to the template
again, and the span of a placeholder counts the bytes of what is written before it.
-/

namespace TypedTemplate

theorem Text.utf8Size_append (s t : Text) : Text.utf8Size (s ++ t) = Text.utf8Size s + Text.utf8Size t := by
  induction s with
  | nil => simp [Text.utf8Size]
  | cons c s ih => rw [List.cons_append, Text.utf8Size, ih, Text.utf8Size, Nat.add_assoc]

/-- A span marks a part of a text when it counts the bytes up to the part and up to its end. -/
def Span.Marks (span : Span) (t part : Text) : Prop :=
  ∃ before after, t = before ++ part ++ after ∧ span.start = Text.utf8Size before
    ∧ span.stop = Text.utf8Size (before ++ part)

/-- A segment as it stands in its template. -/
def Segment.source : Segment → Text
  | .text t => t
  | .placeholder body _ => '{' :: body ++ ['}']

theorem Segment.utf8Size_source_placeholder (body : Text) (span : Span) :
    Text.utf8Size (source (.placeholder body span)) = Text.utf8Size body + 2 := by
  have hopen : Char.utf8Size '{' = 1 := by decide
  have hclose : Char.utf8Size '}' = 1 := by decide
  simp only [source, List.cons_append, Text.utf8Size, Text.utf8Size_append, hopen, hclose]
  omega

namespace Template

theorem eq_of_closing? {t body after : Text} (h : closing? t = some (body, after)) :
    t = body ++ '}' :: after := by
  induction t generalizing body with
  | nil => simp [closing?] at h
  | cons c t ih =>
      rw [closing?] at h
      split at h
      · next hc =>
          obtain ⟨rfl, rfl⟩ := Prod.mk.inj (Option.some.inj h)
          rw [hc, List.nil_append]
      · split at h
        · exact absurd h (by simp)
        · obtain ⟨⟨body', after'⟩, hrest, hpair⟩ := Option.map_eq_some_iff.mp h
          obtain ⟨rfl, rfl⟩ := Prod.mk.inj hpair
          rw [ih hrest, List.cons_append]

/-- Placeholders and the texts behind them, written out. -/
def written (rest : List (Text × Text)) : Text :=
  rest.flatMap fun p => '{' :: p.1 ++ '}' :: p.2

theorem written_pieces (t : Text) : (pieces t).1 ++ written (pieces t).2 = t := by
  induction t with
  | nil => rfl
  | cons c t ih =>
      rcases hpieces : pieces t with ⟨lead, rest⟩
      rw [hpieces] at ih
      simp only [pieces, hpieces]
      split
      · next body after hclosing =>
          split at hclosing
          · next hc =>
              have hlead := eq_of_closing? hclosing
              rw [← ih, hc, hlead]
              simp [written]
          · exact absurd hclosing (by simp)
      · rw [List.cons_append, ih]

theorem flatMap_source_layOut (offset : Nat) (rest : List (Text × Text)) :
    (layOut offset rest).flatMap Segment.source = written rest := by
  induction rest generalizing offset with
  | nil => rfl
  | cons p rest ih =>
      obtain ⟨body, after⟩ := p
      rw [layOut, List.flatMap_cons, List.flatMap_cons, ih]
      simp [Segment.source, written]

theorem flatMap_source_scan (t : Text) : (scan t).flatMap Segment.source = t := by
  rw [scan, List.flatMap_cons, flatMap_source_layOut]
  exact written_pieces t

private theorem span_of_layOut {offset : Nat} {rest : List (Text × Text)} {before after : List Segment}
    {body : Text} {span : Span}
    (h : layOut offset rest = before ++ .placeholder body span :: after) :
    span.start = offset + Text.utf8Size (before.flatMap Segment.source)
      ∧ span.stop = span.start + Text.utf8Size body + 2 := by
  induction rest generalizing offset before with
  | nil => simp [layOut] at h
  | cons p rest ih =>
      obtain ⟨body', after'⟩ := p
      rw [layOut] at h
      match before with
      | [] =>
          obtain ⟨hhead, _⟩ := List.cons.inj h
          obtain ⟨rfl, rfl⟩ := Segment.placeholder.inj hhead
          simp [Text.utf8Size]
      | [s] =>
          obtain ⟨_, htail⟩ := List.cons.inj h
          exact absurd (List.cons.inj htail).1 (by simp)
      | s :: s' :: before =>
          obtain ⟨rfl, htail⟩ := List.cons.inj h
          obtain ⟨rfl, hrest⟩ := List.cons.inj htail
          obtain ⟨hstart, hstop⟩ := ih hrest
          refine ⟨?_, hstop⟩
          rw [hstart, List.flatMap_cons, List.flatMap_cons, Text.utf8Size_append,
            Text.utf8Size_append, Segment.utf8Size_source_placeholder]
          simp only [Segment.source]
          omega

theorem span_of_scan {t : Text} {before after : List Segment} {body : Text} {span : Span}
    (h : scan t = before ++ .placeholder body span :: after) :
    span.start = Text.utf8Size (before.flatMap Segment.source)
      ∧ span.stop = span.start + Text.utf8Size body + 2 := by
  rw [scan] at h
  cases before with
  | nil => exact absurd (List.cons.inj h).1 (by simp)
  | cons s before =>
      obtain ⟨rfl, hrest⟩ := List.cons.inj h
      rw [List.flatMap_cons, Text.utf8Size_append]
      exact span_of_layOut hrest

/-- The bytes a placeholder spans are those of its braces and its body. -/
theorem marks_of_mem_scan {t body : Text} {span : Span} (h : .placeholder body span ∈ scan t) :
    span.Marks t ('{' :: body ++ ['}']) := by
  obtain ⟨before, after, hscan⟩ := List.append_of_mem h
  obtain ⟨hstart, hstop⟩ := span_of_scan hscan
  refine ⟨before.flatMap Segment.source, after.flatMap Segment.source, ?_, hstart, ?_⟩
  · have hjoin := flatMap_source_scan t
    rw [hscan, List.flatMap_append, List.flatMap_cons] at hjoin
    rw [← hjoin, List.append_assoc]
    rfl
  · have hsize := Segment.utf8Size_source_placeholder body span
    rw [Segment.source] at hsize
    rw [Text.utf8Size_append, hsize, ← hstart, ← Nat.add_assoc, ← hstop]

end Template

end TypedTemplate
