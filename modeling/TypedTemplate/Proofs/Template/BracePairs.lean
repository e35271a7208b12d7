import TypedTemplate.Proofs.Template.Scan
/-!
# Placeholders are the innermost pairs of braces

An opening brace and a closing one make a pair when no brace stands between them. `Text.Pair` says so by
positions in bytes, without a look at the scanner. Scanning finds exactly these pairs: the spans of the
placeholders are the pairs of the template, in order and apart from each other, and no pair is left in a
text between them. Everything about `pieces` is read off `pieces_cons_cases`, which says what one more
character in front of a template can do.
-/

namespace TypedTemplate

namespace Text

/-- A text without braces. -/
def Bare (t : Text) : Prop :=
  '{' ∉ t ∧ '}' ∉ t

/-- A text has a character at a position, counted in bytes. -/
def HasAt (t : Text) (c : Char) (position : Nat) : Prop :=
  ∃ before after, t = before ++ c :: after ∧ utf8Size before = position

/-- An opening brace at `i` and a closing one at `j` with no brace between them. -/
structure Pair (t : Text) (i j : Nat) : Prop where
  opening : t.HasAt '{' i
  closing : t.HasAt '}' j
  lt : i < j
  between : ∀ k c, i < k → k < j → t.HasAt c k → c ≠ '{' ∧ c ≠ '}'

/-- A text in which no opening brace has a closing one before the next brace. -/
def Unpaired (t : Text) : Prop :=
  ∀ before body after, t = before ++ '{' :: body ++ '}' :: after → ¬Bare body

/-! ### Positions in bytes -/

theorem utf8Size_eq_size_utf8Encode (t : Text) : utf8Size t = t.utf8Encode.size := by
  induction t with
  | nil => rfl
  | cons c t ih =>
      have hsplit : (c :: t).utf8Encode = [c].utf8Encode ++ t.utf8Encode := by
        rw [← List.utf8Encode_append]
        rfl
      rw [utf8Size, ih, hsplit, ByteArray.size_append, List.utf8Encode_singleton,
        List.size_toByteArray, String.length_utf8EncodeChar]

theorem exists_append_of_utf8Size_le {s t u v : Text} (h : s ++ t = u ++ v)
    (hsize : utf8Size s ≤ utf8Size u) : ∃ w, u = s ++ w ∧ t = w ++ v := by
  obtain ⟨w, hu, ht⟩ | ⟨w, hs, hv⟩ := List.append_eq_append_iff.mp h
  · exact ⟨w, hu, ht⟩
  · have hzero : utf8Size w = 0 := by
      rw [hs, utf8Size_append] at hsize
      omega
    cases w with
    | nil => exact ⟨[], by simpa using hs.symm, by simpa using hv.symm⟩
    | cons c w =>
        have hpos := c.utf8Size_pos
        rw [utf8Size] at hzero
        omega

theorem HasAt.mem {before body after : Text} {c : Char} {k : Nat}
    (h : HasAt (before ++ body ++ after) c k) (hlow : utf8Size before ≤ k)
    (hhigh : k < utf8Size before + utf8Size body) : c ∈ body := by
  obtain ⟨x, y, ht, rfl⟩ := h
  rw [List.append_assoc] at ht
  obtain ⟨w, rfl, hrest⟩ := exists_append_of_utf8Size_le ht hlow
  have hw : utf8Size w < utf8Size body := by
    rw [utf8Size_append] at hhigh
    omega
  obtain ⟨z, rfl, hz⟩ := exists_append_of_utf8Size_le hrest.symm (Nat.le_of_lt hw)
  cases z with
  | nil => simp at hw
  | cons d z =>
      obtain ⟨rfl, _⟩ := List.cons.inj hz
      simp

theorem pair_iff {t : Text} {i j : Nat} :
    t.Pair i j ↔ ∃ before body after, t = before ++ '{' :: body ++ '}' :: after ∧ Bare body
      ∧ i = utf8Size before ∧ j = utf8Size before + utf8Size body + 1 := by
  have hopen : Char.utf8Size '{' = 1 := by decide
  constructor
  · rintro ⟨⟨before, rest, ht, rfl⟩, ⟨before', after, ht', rfl⟩, hlt, hbetween⟩
    obtain ⟨w, rfl, hrest⟩ := exists_append_of_utf8Size_le (ht.symm.trans ht') (Nat.le_of_lt hlt)
    cases w with
    | nil => exact absurd (List.cons.inj hrest).1 (by decide)
    | cons c body =>
        obtain ⟨rfl, rfl⟩ := List.cons.inj hrest
        have hbare : ∀ c ∈ body, c ≠ '{' ∧ c ≠ '}' := by
          intro c hc
          obtain ⟨x, y, rfl⟩ := List.append_of_mem hc
          have hpos := c.utf8Size_pos
          refine hbetween (utf8Size (before ++ '{' :: x)) c ?_ ?_
            ⟨before ++ '{' :: x, y ++ '}' :: after, by simp [ht], rfl⟩
          · rw [utf8Size_append, utf8Size]
            omega
          · simp only [utf8Size_append, utf8Size]
            omega
        refine ⟨before, body, after, by simp [ht], ⟨?_, ?_⟩, rfl, ?_⟩
        · exact fun hc => (hbare _ hc).1 rfl
        · exact fun hc => (hbare _ hc).2 rfl
        · rw [utf8Size_append, utf8Size]
          omega
  · rintro ⟨before, body, after, rfl, hbare, rfl, rfl⟩
    constructor
    case opening => exact ⟨before, body ++ '}' :: after, by simp, rfl⟩
    case closing =>
      refine ⟨before ++ '{' :: body, after, rfl, ?_⟩
      rw [utf8Size_append, utf8Size]
      omega
    case lt => omega
    case between =>
      intro k c hlow hhigh h
      have hopened : utf8Size (before ++ ['{']) = utf8Size before + 1 := by
        rw [utf8Size_append, utf8Size, utf8Size, hopen]
      have hmem : c ∈ body := by
        have hat : HasAt ((before ++ ['{']) ++ body ++ '}' :: after) c k := by simpa using h
        exact hat.mem (by omega) (by omega)
      constructor
      · rintro rfl
        exact hbare.1 hmem
      · rintro rfl
        exact hbare.2 hmem

theorem Unpaired.not_pair {t : Text} (h : t.Unpaired) (i j : Nat) : ¬t.Pair i j := by
  intro hpair
  obtain ⟨before, body, after, ht, hbare, _⟩ := pair_iff.mp hpair
  exact h before body after ht hbare

theorem Unpaired.of_append {s t : Text} (h : Unpaired (s ++ t)) : t.Unpaired := by
  intro before body after ht
  exact h (s ++ before) body after (by simp [ht])

end Text

theorem Span.Marks.extract_eq {span : Span} {t part : Text} (h : span.Marks t part) :
    t.utf8Encode.extract span.start span.stop = part.utf8Encode := by
  obtain ⟨before, after, rfl, hstart, hstop⟩ := h
  rw [Text.utf8Size_append] at hstop
  simp only [Text.utf8Size_eq_size_utf8Encode] at hstart hstop
  have hend : span.stop - (List.utf8Encode (before ++ part)).size = 0 := by
    rw [List.utf8Encode_append, ByteArray.size_append]
    omega
  rw [List.utf8Encode_append, ByteArray.extract_append, hend, List.utf8Encode_append,
    ByteArray.extract_append_eq_right hstart hstop,
    ByteArray.extract_eq_empty_iff.mpr (Nat.le_trans (Nat.min_le_left _ _) (Nat.zero_le _)),
    ByteArray.append_empty]

/-! ### Pieces -/

namespace Template

open Text

theorem bare_of_closing? {t body after : Text} (h : closing? t = some (body, after)) : Bare body := by
  induction t generalizing body with
  | nil => simp [closing?] at h
  | cons c t ih =>
      rw [closing?] at h
      split at h
      · obtain ⟨rfl, _⟩ := Prod.mk.inj (Option.some.inj h)
        exact ⟨List.not_mem_nil, List.not_mem_nil⟩
      · next hclose =>
          split at h
          · exact absurd h (by simp)
          · next hopen =>
              obtain ⟨⟨body', after'⟩, hrest, hpair⟩ := Option.map_eq_some_iff.mp h
              obtain ⟨rfl, rfl⟩ := Prod.mk.inj hpair
              obtain ⟨hopen', hclose'⟩ := ih hrest
              constructor
              · simpa [Ne.symm hopen] using hopen'
              · simpa [Ne.symm hclose] using hclose'

theorem closing?_append {body : Text} (hbare : Bare body) (after : Text) :
    closing? (body ++ '}' :: after) = some (body, after) := by
  induction body with
  | nil => simp [closing?]
  | cons c body ih =>
      obtain ⟨hopen, hclose⟩ := hbare
      rw [List.mem_cons, not_or] at hopen hclose
      rw [List.cons_append, closing?, if_neg (Ne.symm hclose.1), if_neg (Ne.symm hopen.1),
        ih ⟨hopen.2, hclose.2⟩]
      rfl

theorem pieces_cons_cases (c : Char) (t : Text) :
    (∃ body after, c = '{' ∧ (pieces t).1 = body ++ '}' :: after ∧ Bare body
        ∧ pieces (c :: t) = ([], (body, after) :: (pieces t).2))
      ∨ (c = '{' → closing? (pieces t).1 = none) ∧ pieces (c :: t) = (c :: (pieces t).1, (pieces t).2) := by
  rcases hpieces : pieces t with ⟨lead, rest⟩
  rw [pieces, hpieces]
  dsimp only
  by_cases hc : c = '{'
  · rw [if_pos hc]
    cases hclosing : closing? lead with
    | some p =>
        exact .inl ⟨p.1, p.2, hc, eq_of_closing? hclosing, bare_of_closing? hclosing, rfl⟩
    | none => exact .inr ⟨fun _ => rfl, rfl⟩
  · rw [if_neg hc]
    exact .inr ⟨fun h => absurd h hc, rfl⟩

theorem unpaired_cons {c : Char} {t : Text} (hc : c = '{' → closing? t = none) (ht : t.Unpaired) :
    Unpaired (c :: t) := by
  intro before body after heq hbare
  cases before with
  | nil =>
      obtain ⟨hopen, htail⟩ := List.cons.inj heq
      have hnone := hc hopen
      have hclose : t = body ++ '}' :: after := htail
      rw [hclose, closing?_append hbare] at hnone
      exact absurd hnone (by simp)
  | cons d before =>
      obtain ⟨_, htail⟩ := List.cons.inj heq
      exact ht before body after htail hbare

/-- No pair is left in a text between placeholders. -/
theorem unpaired_pieces (t : Text) :
    (pieces t).1.Unpaired ∧ ∀ p ∈ (pieces t).2, Bare p.1 ∧ p.2.Unpaired := by
  induction t with
  | nil =>
      refine ⟨fun before body after h => ?_, by simp [pieces]⟩
      simp [pieces] at h
  | cons c t ih =>
      obtain ⟨hlead, hrest⟩ := ih
      obtain ⟨body, after, _, heq, hbare, hpieces⟩ | ⟨hc, hpieces⟩ := pieces_cons_cases c t
      · rw [hpieces]
        rw [heq] at hlead
        have hafter : Unpaired after := by
          apply Unpaired.of_append (s := body ++ ['}'])
          simpa using hlead
        refine ⟨fun _ _ _ h => absurd h (by simp), List.forall_mem_cons.mpr ⟨⟨hbare, hafter⟩, hrest⟩⟩
      · rw [hpieces]
        exact ⟨unpaired_cons hc hlead, hrest⟩

/-- A pair that begins in a text is closed in it or by a placeholder behind it, which would be a brace too
soon. -/
theorem exists_eq_append_of_written {lead body after : Text} {rest : List (Text × Text)}
    (h : lead ++ written rest = body ++ '}' :: after) (hbare : Bare body) :
    ∃ after', lead = body ++ '}' :: after' := by
  obtain ⟨w, hbody, hrest⟩ | ⟨w, hlead, hclose⟩ := List.append_eq_append_iff.mp h
  · cases rest with
    | nil =>
        have hnil : w ++ '}' :: after = [] := hrest.symm
        exact absurd hnil (by simp)
    | cons p rest =>
        have hopen : '{' :: (p.1 ++ '}' :: p.2 ++ written rest) = w ++ '}' :: after := by
          simpa [written] using hrest
        cases w with
        | nil => exact absurd (List.cons.inj hopen).1 (by decide)
        | cons c w =>
            obtain ⟨rfl, _⟩ := List.cons.inj hopen
            exact absurd (by simp [hbody]) hbare.1
  · cases w with
    | nil =>
        cases rest with
        | nil => exact absurd hclose (by simp [written])
        | cons p rest => exact absurd (List.cons.inj hclose).1 (by decide)
    | cons c w =>
        obtain ⟨rfl, _⟩ := List.cons.inj hclose
        exact ⟨w, hlead⟩

/-- A pair of a text is one of its placeholders, with the same text before it. -/
theorem exists_pieces_eq {body : Text} (hbare : Bare body) (before after : Text) :
    ∃ lead front behind back,
      pieces (before ++ '{' :: body ++ '}' :: after) = (lead, front ++ (body, behind) :: back)
        ∧ before = lead ++ written front := by
  induction before with
  | nil =>
      have hwritten := written_pieces (body ++ '}' :: after)
      obtain ⟨behind, hlead⟩ := exists_eq_append_of_written hwritten hbare
      obtain ⟨body', after', _, heq, hbare', hpieces⟩ | ⟨hc, _⟩ :=
        pieces_cons_cases '{' (body ++ '}' :: after)
      · have hsame := closing?_append hbare behind
        rw [← hlead, heq, closing?_append hbare'] at hsame
        obtain ⟨rfl, rfl⟩ := Prod.mk.inj (Option.some.inj hsame)
        exact ⟨[], [], after', (pieces (body' ++ '}' :: after)).2, hpieces, rfl⟩
      · have hnone := hc rfl
        rw [hlead, closing?_append hbare] at hnone
        exact absurd hnone (by simp)
  | cons c before ih =>
      obtain ⟨lead, front, behind, back, hpieces, hbefore⟩ := ih
      rw [List.cons_append, List.cons_append]
      obtain ⟨body', after', rfl, heq, _, hcons⟩ | ⟨_, hcons⟩ :=
        pieces_cons_cases c (before ++ '{' :: body ++ '}' :: after)
      · rw [hpieces] at heq hcons
        have hlead : lead = body' ++ '}' :: after' := heq
        refine ⟨[], (body', after') :: front, behind, back, hcons, ?_⟩
        rw [hbefore, hlead]
        simp [written]
      · rw [hpieces] at hcons
        exact ⟨c :: lead, front, behind, back, hcons, by rw [hbefore, List.cons_append]⟩

end Template

/-! ### Segments -/

/-- The span of a placeholder. -/
def Segment.span? : Segment → Option Span
  | .text _ => none
  | .placeholder _ span => some span

/-- Texts and placeholders in turn, a text first and a text last. -/
inductive Segment.Alternating : List Segment → Prop
  | last (t : Text) : Alternating [.text t]
  | next (t body : Text) (span : Span) {rest : List Segment} (hrest : Alternating rest) :
      Alternating (.text t :: .placeholder body span :: rest)

theorem Segment.Alternating.length_eq {segments : List Segment} (h : Alternating segments) :
    segments.length = 2 * (segments.filterMap span?).length + 1 := by
  induction h with
  | last t => rfl
  | next t body span _ ih =>
      simp only [List.length_cons, List.filterMap_cons, span?, ih]
      omega

namespace Template

open Text

theorem alternating_layOut (lead : Text) (offset : Nat) (rest : List (Text × Text)) :
    Segment.Alternating (.text lead :: layOut offset rest) := by
  induction rest generalizing lead offset with
  | nil => exact .last lead
  | cons p rest ih => exact .next lead p.1 _ (ih p.2 _)

theorem layOut_append (offset : Nat) (front back : List (Text × Text)) :
    layOut offset (front ++ back)
      = layOut offset front ++ layOut (offset + utf8Size (written front)) back := by
  induction front generalizing offset with
  | nil => rfl
  | cons p front ih =>
      have hsize := Segment.utf8Size_source_placeholder p.1 ⟨0, 0⟩
      have hwritten : written (p :: front)
          = Segment.source (.placeholder p.1 ⟨0, 0⟩) ++ (p.2 ++ written front) := by
        simp [written, Segment.source]
      have hoffset : offset + utf8Size p.1 + 2 + utf8Size p.2 + utf8Size (written front)
          = offset + utf8Size (written (p :: front)) := by
        rw [hwritten, utf8Size_append, utf8Size_append, hsize]
        omega
      rw [List.cons_append, layOut, ih, hoffset]
      rfl

theorem mem_layOut {offset : Nat} {rest : List (Text × Text)} {segment : Segment}
    (h : segment ∈ layOut offset rest) :
    ∃ p ∈ rest, segment = .text p.2 ∨ ∃ span, segment = .placeholder p.1 span := by
  induction rest generalizing offset with
  | nil => exact absurd h List.not_mem_nil
  | cons p rest ih =>
      rw [layOut, List.mem_cons, List.mem_cons] at h
      rcases h with rfl | rfl | h
      · exact ⟨p, List.mem_cons_self, .inr ⟨_, rfl⟩⟩
      · exact ⟨p, List.mem_cons_self, .inl rfl⟩
      · obtain ⟨q, hq, hsegment⟩ := ih h
        exact ⟨q, List.mem_cons_of_mem _ hq, hsegment⟩

theorem pieces_of_not_mem {t : Text} (h : '{' ∉ t) : pieces t = (t, []) := by
  induction t with
  | nil => rfl
  | cons c t ih =>
      rw [List.mem_cons, not_or] at h
      rw [pieces, ih h.2]
      simp [Ne.symm h.1]

theorem scan_placeholder {body : Text} (hbare : Bare body) :
    scan ('{' :: body ++ ['}']) = [.text [], .placeholder body ⟨0, utf8Size body + 2⟩, .text []] := by
  have hopen : '{' ∉ body ++ ['}'] := by simpa using hbare.1
  have hpieces : pieces ('{' :: body ++ ['}']) = ([], [(body, [])]) := by
    rw [List.cons_append, pieces, pieces_of_not_mem hopen]
    simp [closing?_append hbare]
  rw [scan, hpieces]
  simp [layOut, utf8Size]

theorem bare_of_mem_scan {t body : Text} {span : Span} (h : .placeholder body span ∈ scan t) :
    Bare body := by
  obtain h | h := List.mem_cons.mp h
  · exact absurd h (by simp)
  · obtain ⟨p, hp, hsegment⟩ := mem_layOut h
    obtain hsegment | ⟨_, hsegment⟩ := hsegment
    · exact absurd hsegment (by simp)
    · obtain ⟨rfl, _⟩ := Segment.placeholder.inj hsegment
      exact ((unpaired_pieces t).2 p hp).1

theorem unpaired_of_mem_scan {t s : Text} (h : .text s ∈ scan t) : s.Unpaired := by
  obtain ⟨hlead, hrest⟩ := unpaired_pieces t
  obtain h | h := List.mem_cons.mp h
  · exact Segment.text.inj h ▸ hlead
  · obtain ⟨p, hp, hsegment⟩ := mem_layOut h
    obtain hsegment | ⟨_, hsegment⟩ := hsegment
    · exact Segment.text.inj hsegment ▸ (hrest p hp).2
    · exact absurd hsegment (by simp)

/-- The spans of the placeholders of a template, in order. -/
def spans (t : Text) : List Span :=
  (scan t).filterMap Segment.span?

theorem mem_spans_iff_exists_body {t : Text} {span : Span} :
    span ∈ spans t ↔ ∃ body, .placeholder body span ∈ scan t := by
  rw [spans, List.mem_filterMap]
  constructor
  · rintro ⟨segment, hsegment, hspan⟩
    cases segment with
    | text => exact absurd hspan (by simp [Segment.span?])
    | placeholder body span' =>
        obtain rfl := Option.some.inj hspan
        exact ⟨body, hsegment⟩
  · rintro ⟨body, hbody⟩
    exact ⟨_, hbody, rfl⟩

theorem mem_spans_iff {t : Text} {span : Span} :
    span ∈ spans t ↔ ∃ j, t.Pair span.start j ∧ span.stop = j + 1 := by
  rw [mem_spans_iff_exists_body]
  constructor
  · rintro ⟨body, hbody⟩
    obtain ⟨before, after, ht, hstart, hstop⟩ := marks_of_mem_scan hbody
    have hsize := Segment.utf8Size_source_placeholder body span
    rw [Segment.source] at hsize
    rw [utf8Size_append, hsize] at hstop
    have hpair : t.Pair span.start (utf8Size before + utf8Size body + 1) :=
      pair_iff.mpr ⟨before, body, after, by simp [ht], bare_of_mem_scan hbody, hstart, rfl⟩
    exact ⟨_, hpair, hstop⟩
  · rintro ⟨j, hpair, hstop⟩
    obtain ⟨before, body, after, rfl, hbare, hstart, rfl⟩ := pair_iff.mp hpair
    obtain ⟨lead, front, behind, back, hpieces, hbefore⟩ := exists_pieces_eq hbare before after
    have hspan : span = ⟨utf8Size before, utf8Size before + utf8Size body + 2⟩ := by
      rw [← hstart]
      exact congrArg (Span.mk span.start) (by omega)
    refine ⟨body, ?_⟩
    rw [scan, hpieces, hspan, hbefore, utf8Size_append]
    simp [layOut_append, layOut]

theorem pairwise_spans_layOut (offset : Nat) (rest : List (Text × Text)) :
    let later := (layOut offset rest).filterMap Segment.span?
    (∀ span ∈ later, offset ≤ span.start) ∧ later.Pairwise fun a b => a.stop ≤ b.start := by
  induction rest generalizing offset with
  | nil => exact ⟨fun _ h => absurd h List.not_mem_nil, .nil⟩
  | cons p rest ih =>
      obtain ⟨hstart, hpairwise⟩ := ih (offset + utf8Size p.1 + 2 + utf8Size p.2)
      simp only [layOut, List.filterMap_cons, Segment.span?]
      constructor
      · intro span hspan
        obtain rfl | hspan := List.mem_cons.mp hspan
        · exact Nat.le_refl _
        · have := hstart span hspan
          omega
      · refine List.pairwise_cons.mpr ⟨fun span hspan => ?_, hpairwise⟩
        have := hstart span hspan
        show offset + utf8Size p.1 + 2 ≤ span.start
        omega

/-- What scanning a template comes to. -/
structure Scanned (t : Text) (segments : List Segment) : Prop where
  alternating : Segment.Alternating segments
  length_eq : segments.length = 2 * (segments.filterMap Segment.span?).length + 1
  joined : segments.flatMap Segment.source = t
  /-- A placeholder spans the characters of its braces and its body, and their bytes. -/
  marks : ∀ body span, .placeholder body span ∈ segments →
    span.Marks t ('{' :: body ++ ['}'])
      ∧ t.utf8Encode.extract span.start span.stop = ('{' :: body ++ ['}']).utf8Encode
  increasing : (segments.filterMap Segment.span?).Pairwise fun a b => a.stop ≤ b.start
  mem_spans_iff : ∀ span, span ∈ segments.filterMap Segment.span?
    ↔ ∃ j, t.Pair span.start j ∧ span.stop = j + 1
  not_pair : ∀ s, .text s ∈ segments → ∀ i j, ¬s.Pair i j

/-- Scanning loses nothing, and the placeholders it finds are the innermost pairs of braces. -/
theorem scanned_scan (t : Text) : Scanned t (scan t) where
  alternating := alternating_layOut _ _ _
  length_eq := (alternating_layOut _ _ _).length_eq
  joined := flatMap_source_scan t
  marks _ _ h := ⟨marks_of_mem_scan h, (marks_of_mem_scan h).extract_eq⟩
  increasing := (pairwise_spans_layOut (utf8Size (pieces t).1) (pieces t).2).2
  mem_spans_iff _ := mem_spans_iff
  not_pair _ h i j := (unpaired_of_mem_scan h).not_pair i j

/-- An opening brace that runs into another one, and a closing brace that stands alone. -/
example :
    scan "é{a{b}}{}".toList
      = [.text "é\x7ba".toList, .placeholder "b".toList ⟨4, 7⟩, .text "\x7d".toList, .placeholder [] ⟨8, 10⟩,
          .text []] := by
  decide

end Template

end TypedTemplate
