import TypedTemplate.Proofs.Node.Agreement
import TypedTemplate.Proofs.Report.Place
import TypedTemplate.Report.Basic
/-!
# Where a report points

The report of a placeholder points at its first brace by line and column, and shows the placeholder in red. It
takes the offsets of the error for offsets in characters, while they were counted in bytes. So the report is right
about a placeholder with one byte for every character up to its end. A longer character before it moves the place
behind the brace, and a longer one inside of it makes the red part longer, which is to be seen unless nothing but
blanks follows in the line. What a report says can be read off its text: `Locates.unique` and `Shows.unique`.
-/

namespace TypedTemplate

/-- A placeholder as it is written. -/
def PlaceholderError.written (e : PlaceholderError) : Text :=
  '{' :: e.body ++ ['}']

theorem PlaceholderError.length_written (e : PlaceholderError) : e.written.length = e.body.length + 2 := by
  simp [written]

namespace Report

/-- The head of a report, up to the end of the place. -/
def opening (title fileName : String) (indent line column : Nat) : String :=
  title ++ "\n" ++ blanks indent ++ paint .margin "╭" ++ paint .margin "─" ++ paint .margin "[" ++ fileName ++ ":"
    ++ toString line ++ ":" ++ toString column ++ paint .margin "]"

/-- A report that gives a line and a column under its title. -/
def Locates (report title fileName : String) (line column : Nat) : Prop :=
  ∃ indent rest, report = opening title fileName indent line column ++ rest

/-- What stands between the place and the line of the source. -/
def gutter (indent line : Nat) : String :=
  "\n" ++ blanks indent ++ paint .margin "│" ++ "\n" ++ " " ++ paint .margin (toString line ++ " │") ++ " "

/-- A report that gives a line and a column and paints the characters of a line, those with a mark in red. -/
def Shows (report title fileName : String) (line column : Nat) (marks : List (Char × Bool)) : Prop :=
  ∃ indent rest, report
    = opening title fileName indent line column ++ (gutter indent line ++ (paintFrom 0 marks ++ rest))

/-- The characters of a line without the blanks at its end, and a mark at those of one part. -/
def marking (front part tail : Text) : List (Char × Bool) :=
  front.map (·, false) ++ part.map (·, true) ++ (Text.trimEnd tail).map (·, false)

variable {report title fileName : String} {line column : Nat} {marks : List (Char × Bool)}

/-! ### Reading a report -/

theorem not_mem_toDigits {c : Char} (hc : c.isDigit = false) (n : Nat) : c ∉ Nat.toDigits 10 n := by
  intro h
  rw [Nat.isDigit_of_mem_toDigits (by decide) (by decide) h] at hc
  exact absurd hc (by simp)

theorem toDigits_injective {m n : Nat} (h : Nat.toDigits 10 m = Nat.toDigits 10 n) : m = n := by
  rw [← Nat.ofDigitChars_ten_toDigits (n := m), h, Nat.ofDigitChars_ten_toDigits]

/-- The head of a report can be told from what follows, and its numbers from each other. -/
theorem opening_append_inj {indent indent' line' column' : Nat} {rest rest' : String}
    (h : opening title fileName indent line column ++ rest = opening title fileName indent' line' column' ++ rest') :
    indent = indent' ∧ line = line' ∧ column = column' ∧ rest = rest' := by
  have hblanks : ∀ n, '\x1b' ∉ List.replicate n ' ' := fun n h =>
    absurd (List.eq_of_mem_replicate h) (by decide)
  have hchars := congrArg String.toList h
  simp only [opening, blanks, paint, Nat.toString_eq_repr, String.toList_append, String.reduceToList,
    String.toList_ofList, List.append_assoc, List.cons_append, List.nil_append, Nat.toList_repr,
    List.append_cancel_left_eq, List.cons.injEq, true_and] at hchars
  -- the blanks end at an escape, the line at a colon and the column at an escape
  obtain ⟨hindent, hchars⟩ := Text.append_cons_inj (hblanks indent) (hblanks indent') hchars
  simp only [List.cons.injEq, true_and, List.append_cancel_left_eq] at hchars
  obtain ⟨hline, hchars⟩ := Text.append_cons_inj (not_mem_toDigits (by decide) line)
    (not_mem_toDigits (by decide) line') hchars
  obtain ⟨hcolumn, hchars⟩ := Text.append_cons_inj (not_mem_toDigits (by decide) column)
    (not_mem_toDigits (by decide) column') hchars
  simp only [List.cons.injEq, true_and, List.append_cancel_left_eq] at hchars
  exact ⟨by simpa using congrArg List.length hindent, toDigits_injective hline, toDigits_injective hcolumn,
    String.toList_inj.mp hchars⟩

theorem Locates.unique {line' column' : Nat} (h : Locates report title fileName line column)
    (h' : Locates report title fileName line' column') : line = line' ∧ column = column' := by
  obtain ⟨_, _, rfl⟩ := h
  obtain ⟨_, _, heq⟩ := h'
  obtain ⟨_, hline, hcolumn, _⟩ := opening_append_inj heq
  exact ⟨hline, hcolumn⟩

theorem not_locates_title : ¬Locates (title ++ "\n") title fileName line column := by
  rintro ⟨indent, rest, h⟩
  have hlength := congrArg String.length h
  simp only [opening, paint, String.length_append] at hlength
  have hbracket : "[".length = 1 := rfl
  omega

theorem Shows.locates (h : Shows report title fileName line column marks) :
    Locates report title fileName line column := by
  obtain ⟨indent, rest, rfl⟩ := h
  exact ⟨indent, _, rfl⟩

/-- How a character is painted, in as many copies as it takes columns. -/
def painted (column : Nat) (c : Char) (isMarked : Bool) : String :=
  let (shown, width) := drawn column c
  let painted := paint (if isMarked then .red else .plain) (String.singleton shown)
  if isBlank c then repeated width painted else painted

theorem paintFrom_cons (column : Nat) (c : Char) (isMarked : Bool) (marks : List (Char × Bool)) :
    paintFrom column ((c, isMarked) :: marks) = painted column c isMarked ++ paintFrom (column + 1) marks :=
  rfl

theorem exists_painted_eq (column : Nat) (c : Char) (isMarked : Bool) :
    ∃ shown more, painted column c isMarked = paint (if isMarked then .red else .plain) shown ++ more := by
  rw [painted]
  by_cases hblank : isBlank c = true
  · have hwidth : ∃ more, (drawn column c).2 = more + 1 := by
      rw [drawn]
      split
      · exact ⟨3 - column % 4, by simp only; omega⟩
      · exact ⟨0, rfl⟩
    obtain ⟨more, hmore⟩ := hwidth
    simp only [hblank, if_true, hmore, repeated, List.replicate_succ, String.join_cons]
    exact ⟨_, _, rfl⟩
  · simp only [hblank]
    exact ⟨_, "", (String.append_empty).symm⟩

theorem painted_append_ne {c : Char} {isMarked isMarked' : Bool} (hne : isMarked ≠ isMarked') (rest rest' : String) :
    painted column c isMarked ++ rest ≠ painted column c isMarked' ++ rest' := by
  obtain ⟨shown, more, hpainted⟩ := exists_painted_eq column c isMarked
  obtain ⟨shown', more', hpainted'⟩ := exists_painted_eq column c isMarked'
  rw [hpainted, hpainted']
  intro h
  have hchars := congrArg String.toList h
  cases isMarked <;> cases isMarked' <;>
    simp [paint, Colour.parameter] at hne hchars

/-- A row of painted characters says which of them are red. -/
theorem paintFrom_append_inj {marks' : List (Char × Bool)} {rest rest' : String}
    (hchars : marks.map Prod.fst = marks'.map Prod.fst)
    (h : paintFrom column marks ++ rest = paintFrom column marks' ++ rest') : marks = marks' := by
  induction marks generalizing marks' column with
  | nil => exact (List.map_eq_nil_iff.mp hchars.symm).symm
  | cons mark marks ih =>
      obtain ⟨⟨c', isMarked'⟩, marks', rfl, hhead, hrest⟩ := List.map_eq_cons_iff.mp hchars.symm
      obtain ⟨c, isMarked⟩ := mark
      obtain rfl : c' = c := hhead
      rw [paintFrom_cons, paintFrom_cons, String.append_assoc, String.append_assoc] at h
      obtain rfl : isMarked = isMarked' := by
        by_contra hne
        exact painted_append_ne hne _ _ h
      rw [ih hrest.symm ((String.append_right_inj _).mp h)]

theorem Shows.unique {marks' : List (Char × Bool)} (h : Shows report title fileName line column marks)
    (h' : Shows report title fileName line column marks') (hchars : marks.map Prod.fst = marks'.map Prod.fst) :
    marks = marks' := by
  obtain ⟨indent, rest, rfl⟩ := h
  obtain ⟨indent', rest', heq⟩ := h'
  obtain ⟨rfl, _, _, hrest⟩ := opening_append_inj heq
  exact paintFrom_append_inj hchars ((String.append_right_inj _).mp hrest)

/-! ### Marks -/

theorem markFrom_append (label : Span) (offset : Nat) (s t : Text) :
    markFrom label offset (s ++ t) = markFrom label offset s ++ markFrom label (offset + s.length) t := by
  induction s generalizing offset with
  | nil => rfl
  | cons c s ih =>
      have hnext : offset + 1 + s.length = offset + (s.length + 1) := by omega
      rw [List.cons_append, markFrom, ih, hnext, markFrom, List.cons_append, List.length_cons]

theorem markFrom_eq_map {label : Span} {offset : Nat} {t : Text} {isMarked : Bool}
    (h : ∀ k, offset ≤ k → k < offset + t.length → decide (label.start ≤ k ∧ k < label.stop) = isMarked) :
    markFrom label offset t = t.map (·, isMarked) := by
  induction t generalizing offset with
  | nil => rfl
  | cons c t ih =>
      rw [List.length_cons] at h
      rw [markFrom, h offset (by omega) (by omega), ih fun k hle hlt => h k (by omega) (by omega)]
      rfl

theorem map_fst_markFrom (label : Span) (offset : Nat) (t : Text) : (markFrom label offset t).map Prod.fst = t := by
  induction t generalizing offset with
  | nil => rfl
  | cons c t ih => rw [markFrom, List.map_cons, ih]

theorem map_fst_marking (front part tail : Text) :
    (marking front part tail).map Prod.fst = front ++ part ++ Text.trimEnd tail := by
  simp [marking, Function.comp_def]

/-- A label that starts with a part marks this part, and nothing else if it is no longer or nothing is to be seen
behind the part. -/
theorem markFrom_eq_marking_iff {label : Span} {offset : Nat} {front part : Text} (tail : Text)
    (hstart : label.start = offset + front.length) (hstop : label.start + part.length ≤ label.stop) :
    markFrom label offset (front ++ part ++ Text.trimEnd tail) = marking front part tail
      ↔ label.stop = label.start + part.length ∨ Text.trimEnd tail = [] := by
  have hfront : markFrom label offset front = front.map (·, false) :=
    markFrom_eq_map fun k hle hlt => decide_eq_false (by omega)
  have hpart : markFrom label (offset + front.length) part = part.map (·, true) :=
    markFrom_eq_map fun k hle hlt => decide_eq_true (by omega)
  rw [markFrom_append, markFrom_append, hfront, hpart, marking, List.append_cancel_left_eq, List.length_append]
  constructor
  · intro h
    cases htail : Text.trimEnd tail with
    | nil => exact .inr rfl
    | cons c rest =>
        rw [htail, markFrom, List.map_cons] at h
        have hmark := congrArg Prod.snd (List.cons.inj h).1
        have hbehind := of_decide_eq_false hmark
        exact .inl (by omega)
  · intro h
    obtain hexact | hnone := h
    · exact markFrom_eq_map fun k hle hlt => decide_eq_false (by omega)
    · rw [hnone]
      rfl

/-! ### The report of a label -/

/-- The title of the report of an error. -/
def titleOf (e : ValidationError) : String :=
  paint .red "Error:" ++ " " ++ e.message

variable {source : Text} {i : Nat} {e : PlaceholderError}

theorem blanks_zero : blanks 0 = "" :=
  rfl

theorem inSource_iff {span : Span} (h : span.start + 2 ≤ span.stop) :
    inSource source span = true ↔ span.stop ≤ source.length + 1 := by
  have hempty : source.isEmpty = true ↔ source.length = 0 := by simp
  simp only [inSource, Bool.and_eq_true, Bool.not_eq_true', decide_eq_true_eq, ← Bool.not_eq_true, hempty]
  omega

theorem report_of_not_inSource (h : inSource source e.span = false) :
    (ValidationError.placeholder i e).report source fileName = titleOf (.placeholder i e) ++ "\n" := by
  simp only [ValidationError.report, label?, body, h, Bool.false_eq_true, if_false]
  simp [titleOf]

theorem report_of_place? {first last : Place} (h : inSource source e.span = true)
    (hfirst : place? source e.span.start = some first)
    (hlast : place? source (Label.lastOffset ⟨e.span, e.code.name⟩) = some last) :
    (ValidationError.placeholder i e).report source fileName
      = opening (titleOf (.placeholder i e)) fileName (numberWidth last + 2) first.number (first.column e.span.start)
        ++ ("\n" ++ blanks (numberWidth last + 2) ++ paint .margin "│" ++ "\n"
        ++ String.join ((excerpt first last ⟨e.span, e.code.name⟩ ++ [footing (numberWidth last)]).map (· ++ "\n"))) := by
  simp only [ValidationError.report, label?, body, h, if_true, hfirst, hlast, heading]
  simp [titleOf, opening, String.append_assoc]

variable {above : List Text} {front part tail : Text}

/-- A label is taken for offsets in characters, and the report gives the place of the first one. -/
theorem locates_of_lies (i : Nat) (fileName : String) (hlies : Lies source above front part tail) (hne : part ≠ [])
    (hstart : e.span.start = (above.flatten ++ front).length) (hsource : inSource source e.span = true) :
    Locates ((ValidationError.placeholder i e).report source fileName) (titleOf (.placeholder i e)) fileName
      (above.length + 1) (front.length + 1) := by
  have hplace := hlies.place?_eq hne
  rw [← hstart] at hplace
  obtain ⟨last, hlast⟩ := hlies.exists_place? (Label.lastOffset ⟨e.span, e.code.name⟩)
  have hcolumn : e.span.start - above.flatten.length + 1 = front.length + 1 := by
    rw [hstart, List.length_append]
    omega
  rw [report_of_place? hsource hplace hlast, Place.column, hcolumn]
  exact ⟨_, _, rfl⟩

/-- A label that ends in its line is red in it. -/
theorem shows_of_lies (i : Nat) (fileName : String) (hlies : Lies source above front part tail) (hne : part ≠ [])
    (hstart : e.span.start = (above.flatten ++ front).length) (hsource : inSource source e.span = true)
    (hstop : e.span.stop ≤ e.span.start + (part ++ tail).length) :
    Shows ((ValidationError.placeholder i e).report source fileName) (titleOf (.placeholder i e)) fileName
      (above.length + 1) (front.length + 1)
      (markFrom e.span above.flatten.length (Text.trimEnd (front ++ (part ++ tail)))) := by
  have hplace := hlies.place?_eq hne
  rw [← hstart] at hplace
  rw [List.length_append] at hstart
  have hpart := List.length_pos_of_ne_nil hne
  have hlast : place? source (Label.lastOffset ⟨e.span, e.code.name⟩)
      = some ⟨above.length + 1, above.flatten.length, front ++ (part ++ tail)⟩ := by
    apply hlies.place?_of_lt <;> simp only [Label.lastOffset, List.length_append] at hstop ⊢ <;> omega
  have hcolumn : e.span.start - above.flatten.length + 1 = front.length + 1 := by omega
  have hline : ¬above.flatten.length + (front ++ (part ++ tail)).length < e.span.stop := by
    simp only [List.length_append] at hstop ⊢
    omega
  rw [report_of_place? hsource hplace hlast, Place.column, hcolumn, excerpt, if_pos rfl, inlineRows, Place.stop,
    if_neg hline]
  simp only [Shows, gutter, sourceRow, marked, shownLine, numberedMargin, Nat.sub_self, blanks_zero,
    String.empty_append, List.cons_append, List.map_cons, String.join_cons, String.append_assoc]
  exact ⟨_, _, rfl⟩

/-! ### Labels in bytes -/

theorem length_le_utf8Size (t : Text) : t.length ≤ Text.utf8Size t := by
  induction t with
  | nil => exact Nat.le_refl 0
  | cons c t ih =>
      have hpos := c.utf8Size_pos
      rw [List.length_cons, Text.utf8Size]
      omega

theorem trimEnd_eq_nil_iff {t : Text} : Text.trimEnd t = [] ↔ Text.Blanks t := by
  rw [Text.trimEnd, List.reverse_eq_nil_iff, List.dropWhile_eq_nil_iff]
  simp [Text.Blanks]

theorem inSource_of_lies (hlies : Lies source above front part tail)
    (hstart : e.span.start = (above.flatten ++ front).length) (hlong : e.span.start + 2 ≤ e.span.stop)
    (hstop : e.span.stop ≤ e.span.start + (part ++ tail).length) : inSource source e.span = true := by
  rw [inSource_iff hlong]
  have hlength := hlies.length_le
  omega

theorem written_ne_nil (e : PlaceholderError) : e.written ≠ [] :=
  List.cons_ne_nil _ _

theorem trimEnd_append_written (e : PlaceholderError) (front tail : Text) :
    Text.trimEnd (front ++ (e.written ++ tail)) = front ++ e.written ++ Text.trimEnd tail := by
  have hsplit : ∀ back : Text, front ++ (e.written ++ back) = (front ++ '{' :: e.body) ++ '}' :: back := by
    intro back
    simp [PlaceholderError.written]
  rw [List.append_assoc, hsplit, hsplit, Text.trimEnd_append_cons _ (by decide)]

/-- What the report of a placeholder says, by the lines above it and the rest of its own line. -/
structure PointsInBytes (source : Text) (e : PlaceholderError) (report title fileName : String) (above : List Text)
    (front tail : Text) : Prop where
  /-- A label that reaches behind the source is not shown at all. -/
  bare : source.length + 1 < e.span.stop → report = title ++ "\n"
  /-- Otherwise the place is that of the character at the offset of the placeholder, and a label that ends in the line of
  this character is red there. -/
  located : e.span.stop ≤ source.length + 1 → ∃ above' front' c tail', Lies source above' front' [c] tail'
    ∧ (above'.flatten ++ front').length = e.span.start
    ∧ Locates report title fileName (above'.length + 1) (front'.length + 1)
    ∧ (e.span.stop ≤ e.span.start + (c :: tail').length →
        Shows report title fileName (above'.length + 1) (front'.length + 1)
          (markFrom e.span above'.flatten.length (Text.trimEnd (front' ++ c :: tail'))))
  locates_iff : Locates report title fileName (above.length + 1) (front.length + 1)
    ↔ Text.utf8Size (above.flatten ++ front) = (above.flatten ++ front).length ∧ e.span.stop ≤ source.length + 1
  shows : Text.utf8Size (above.flatten ++ front) = (above.flatten ++ front).length →
    Text.utf8Size e.body = e.body.length →
      Shows report title fileName (above.length + 1) (front.length + 1) (marking front e.written tail)
  shows_iff : ∀ above' front' c tail', Lies source above' front' [c] tail' →
    (above'.flatten ++ front').length = e.span.start → e.span.stop ≤ e.span.start + (c :: tail').length →
      (Shows report title fileName (above.length + 1) (front.length + 1) (marking front e.written tail)
        ↔ Text.utf8Size (above.flatten ++ front) = (above.flatten ++ front).length
          ∧ (Text.utf8Size e.body = e.body.length ∨ Text.Blanks tail))

section Marked

variable (hlies : Lies source above front e.written tail)
  (hstart : e.span.start = Text.utf8Size (above.flatten ++ front))
  (hstop : e.span.stop = e.span.start + Text.utf8Size e.body + 2)

include hlies hstart hstop

theorem shows_marking_iff (hbefore : Text.utf8Size (above.flatten ++ front) = (above.flatten ++ front).length)
    (hline : e.span.stop ≤ e.span.start + (e.written ++ tail).length) :
    Shows ((ValidationError.placeholder i e).report source fileName) (titleOf (.placeholder i e)) fileName
        (above.length + 1) (front.length + 1) (marking front e.written tail)
      ↔ Text.utf8Size e.body = e.body.length ∨ Text.Blanks tail := by
  have hoffset := hstart.trans hbefore
  have hlength := length_le_utf8Size e.body
  have hwritten := e.length_written
  have hsource := inSource_of_lies hlies hoffset (by omega) hline
  have hshows := shows_of_lies i fileName hlies (written_ne_nil e) hoffset hsource hline
  rw [trimEnd_append_written] at hshows
  rw [List.length_append] at hoffset
  have hmarks := markFrom_eq_marking_iff tail hoffset (by omega : e.span.start + e.written.length ≤ e.span.stop)
  have hexact : e.span.stop = e.span.start + e.written.length ↔ Text.utf8Size e.body = e.body.length := by omega
  rw [hexact, trimEnd_eq_nil_iff] at hmarks
  rw [← hmarks]
  constructor
  · intro h
    exact hshows.unique h (by rw [map_fst_markFrom, map_fst_marking])
  · intro h
    rwa [h] at hshows

theorem locates_iff : Locates ((ValidationError.placeholder i e).report source fileName) (titleOf (.placeholder i e))
      fileName (above.length + 1) (front.length + 1)
    ↔ Text.utf8Size (above.flatten ++ front) = (above.flatten ++ front).length
      ∧ e.span.stop ≤ source.length + 1 := by
  have hlong : e.span.start + 2 ≤ e.span.stop := by omega
  constructor
  · intro h
    have hsource : e.span.stop ≤ source.length + 1 := by
      by_contra hbehind
      rw [← inSource_iff hlong, Bool.not_eq_true] at hbehind
      rw [report_of_not_inSource hbehind] at h
      exact not_locates_title h
    obtain ⟨above', front', c, tail', hlies', hoffset⟩ :=
      exists_lies_at (by omega : e.span.start < source.length)
    have hlocates := locates_of_lies i fileName hlies' (List.cons_ne_nil c []) hoffset.symm
      ((inSource_iff hlong).mpr hsource)
    obtain ⟨hline, hcolumn⟩ := h.unique hlocates
    obtain ⟨rfl, rfl, _⟩ := hlies.unique hlies' (by omega) (by omega)
    exact ⟨by omega, hsource⟩
  · rintro ⟨hbefore, hsource⟩
    exact locates_of_lies i fileName hlies (written_ne_nil e) (hstart.trans hbefore) ((inSource_iff hlong).mpr hsource)

theorem pointsInBytes (i : Nat) (fileName : String) :
    PointsInBytes source e ((ValidationError.placeholder i e).report source fileName) (titleOf (.placeholder i e))
      fileName above front tail := by
  have hlong : e.span.start + 2 ≤ e.span.stop := by omega
  constructor
  case bare =>
    intro hbehind
    apply report_of_not_inSource
    rw [← Bool.not_eq_true, inSource_iff hlong]
    omega
  case located =>
    intro hsource
    obtain ⟨above', front', c, tail', hlies', hoffset⟩ :=
      exists_lies_at (by omega : e.span.start < source.length)
    have hin := (inSource_iff hlong).mpr hsource
    exact ⟨above', front', c, tail', hlies', hoffset,
      locates_of_lies i fileName hlies' (List.cons_ne_nil c []) hoffset.symm hin,
      shows_of_lies i fileName hlies' (List.cons_ne_nil c []) hoffset.symm hin⟩
  case locates_iff => exact locates_iff hlies hstart hstop
  case shows =>
    intro hbefore hbody
    have hwritten := e.length_written
    have hline : e.span.stop ≤ e.span.start + (e.written ++ tail).length := by
      rw [List.length_append]
      omega
    exact (shows_marking_iff hlies hstart hstop hbefore hline).mpr (.inl hbody)
  case shows_iff =>
    intro above' front' c tail' hlies' hoffset hline
    have hone : ∀ hbefore : Text.utf8Size (above.flatten ++ front) = (above.flatten ++ front).length,
        e.span.stop ≤ e.span.start + (e.written ++ tail).length := by
      intro hbefore
      obtain ⟨_, _, hsame⟩ := hlies'.unique_of_length (List.cons_ne_nil c []) hlies (written_ne_nil e)
        (hoffset.trans (hstart.trans hbefore))
      rwa [← hsame]
    constructor
    · intro h
      have hbefore := ((locates_iff hlies hstart hstop).mp h.locates).1
      exact ⟨hbefore, (shows_marking_iff hlies hstart hstop hbefore (hone hbefore)).mp h⟩
    · rintro ⟨hbefore, hbody⟩
      exact (shows_marking_iff hlies hstart hstop hbefore (hone hbefore)).mpr hbody

end Marked

end Report

/-! ### Rejected templates -/

namespace Node

variable {n : Node} {ed : Edit} {i : Nat} {e : PlaceholderError}

/-- A placeholder that an edit is rejected for stands in its template where its span says, in bytes. -/
theorem marks_of_edit_eq_error (h : (n.edit ed).1 = .error (.placeholder i e)) :
    ∃ source, (n.draft.revise ed).texts[i]? = some source ∧ e.span.Marks source e.written := by
  by_cases happlies : ed.Applies n.templates.length
  · obtain ⟨m, hedit, hdraft, _⟩ := exists_edit_eq_reparse happlies
    rw [hedit] at h
    cases hs : Session.ofSeparators m.settings.separators with
    | error code =>
        rw [reparse, ParsedTemplates.parse, hs] at h
        exact absurd h (by simp)
    | ok s =>
        obtain ⟨t, ht, hmarks⟩ := marks_of_reparse_eq_error hs h
        refine ⟨t.text, ?_, hmarks⟩
        rw [← hdraft, draft, List.getElem?_map, ht]
        rfl
  · obtain ⟨_, _, _, hedit⟩ := edit_of_not_applies happlies
    rw [hedit] at h
    exact absurd h (by simp)

/-- Whatever edit is rejected for a placeholder without a line break, the report of the error takes the bytes before
and in the placeholder for characters. -/
theorem reports_in_bytes (h : (n.edit ed).1 = .error (.placeholder i e)) (hbreak : ∀ c ∈ e.body, c ∉ Report.lineEnds) :
    ∃ source above front tail, (n.draft.revise ed).texts[i]? = some source
      ∧ Report.Lies source above front e.written tail
      ∧ e.span = ⟨Text.utf8Size (above.flatten ++ front), Text.utf8Size (above.flatten ++ front ++ e.written)⟩
      ∧ ∀ fileName, Report.PointsInBytes source e ((ValidationError.placeholder i e).report source fileName)
          (Report.titleOf (.placeholder i e)) fileName above front tail := by
  obtain ⟨source, hsource, before, after, rfl, hstart, hstop⟩ := marks_of_edit_eq_error h
  have hpart : ∀ c ∈ e.written.dropLast, c ∉ Report.lineEnds := by
    rw [PlaceholderError.written, List.dropLast_concat, List.forall_mem_cons]
    exact ⟨by decide, hbreak⟩
  obtain ⟨above, front, tail, hlies, rfl⟩ := Report.exists_lies before (Report.written_ne_nil e) hpart after
  rw [← List.append_assoc] at hlies
  have hsize : e.span.stop = e.span.start + Text.utf8Size e.body + 2 := by
    have hwritten := Segment.utf8Size_source_placeholder e.body e.span
    rw [hstop, Text.utf8Size_append, ← hstart, Nat.add_assoc, ← hwritten]
    rfl
  exact ⟨_, above, front, tail, hsource, hlies, by rw [← hstart, ← hstop],
    Report.pointsInBytes hlies hstart hsize i⟩

/-- A long character in the line above moves the place to the next character, and the red part up to the line feed. -/
theorem reports_in_bytes_of_long_line :
    let n := ofSettings {}
    let texts := ["{a:I}".toList, "ü\n{a:S}\n".toList]
    let e : PlaceholderError := ⟨"a:S".toList, .placeholderReuseWrongType, ⟨3, 8⟩⟩
    (n.edit (.templates texts)).1 = .error (.placeholder 1 e) ∧ (∀ c ∈ e.body, c ∉ Report.lineEnds)
      ∧ ∃ source above front tail, texts[1]? = some source ∧ Report.Lies source above front e.written tail
        ∧ e.span = ⟨Text.utf8Size (above.flatten ++ front), Text.utf8Size (above.flatten ++ front ++ e.written)⟩
        ∧ ∀ fileName, Report.PointsInBytes source e ((ValidationError.placeholder 1 e).report source fileName)
            (Report.titleOf (.placeholder 1 e)) fileName above front tail := by
  intro n texts e
  have herror : (n.edit (.templates texts)).1 = .error (.placeholder 1 e) := by decide +kernel
  have hall : e.body.all (· ∉ Report.lineEnds) = true := by decide
  have hbreak : ∀ c ∈ e.body, c ∉ Report.lineEnds := fun c hc => of_decide_eq_true (List.all_eq_true.mp hall c hc)
  exact ⟨herror, hbreak, reports_in_bytes herror hbreak⟩

/-- Behind a character of two bytes the report gives the second character of the placeholder as its first, and the
brace is not red. -/
theorem not_reported_in_characters :
    let n := ofSettings {}
    let source := "é{a:Q} x".toList
    let e : PlaceholderError := ⟨"a:Q".toList, .placeholderTypeInvalid, ⟨2, 7⟩⟩
    let report := (ValidationError.placeholder 0 e).report source "template 1"
    let title := Report.titleOf (.placeholder 0 e)
    (n.edit (.templates [source])).1 = .error (.placeholder 0 e) ∧ (∀ c ∈ e.body, c ∉ Report.lineEnds)
      ∧ Report.Lies source [] ['é'] e.written [' ', 'x']
      ∧ Report.Locates report title "template 1" 1 3 ∧ ¬Report.Locates report title "template 1" 1 2
      ∧ ¬Report.Shows report title "template 1" 1 2 (Report.marking ['é'] e.written [' ', 'x'])
      ∧ Report.Shows report title "template 1" 1 3 (Report.marking ['é', '{'] ['a', ':', 'Q', '}', ' '] ['x']) := by
  intro n source e report title
  have hlies : Report.Lies source [] ['é'] e.written [' ', 'x'] := ⟨[], by decide⟩
  have hbehind : Report.Lies source [] ['é', '{'] ['a'] [':', 'Q', '}', ' ', 'x'] := ⟨[], by decide⟩
  have hpoints := Report.pointsInBytes hlies (by decide) (by decide) 0 "template 1"
  have hshows := Report.shows_of_lies 0 "template 1" hbehind (by decide) (by decide : e.span.start = 2) (by decide)
    (by decide)
  have hall : e.body.all (· ∉ Report.lineEnds) = true := by decide
  have hbreak : ∀ c ∈ e.body, c ∉ Report.lineEnds := fun c hc => of_decide_eq_true (List.all_eq_true.mp hall c hc)
  refine ⟨by decide +kernel, hbreak, hlies, hshows.locates, ?_, ?_, hshows⟩
  · exact fun h => absurd (hpoints.locates_iff.mp h).1 (by decide)
  · exact fun h => absurd (hpoints.locates_iff.mp h.locates).1 (by decide)

end Node

end TypedTemplate
