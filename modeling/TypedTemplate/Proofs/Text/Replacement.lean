import Mathlib.Data.List.Infix
import TypedTemplate.Template.Presentation
/-!
# Replacing the occurrences of a pattern

A replacement cuts a text at the occurrences of its pattern and puts the parts together again with something else
between them. `Text.Parts` says where the cuts are: every occurrence is the leftmost one behind the occurrence
before it, and none is left in the last part. So only the text itself is searched, never what is put in, and the
parts are the only ones a text has. Several replacements are made in turn, each in what the one before it left,
`TextMapping.Passes`.
-/

namespace TypedTemplate

namespace Text

variable {pattern replacement p rest t : Text} {ps qs : List Text}

/-- Behind `p` stands the leftmost occurrence of the pattern in `p ++ pattern ++ rest`. -/
def Leftmost (pattern p rest : Text) : Prop :=
  ∀ before after, p ++ pattern ++ rest = before ++ pattern ++ after → p.length ≤ before.length

/-- The parts of a text that is cut at the occurrences of a pattern, from left to right. -/
inductive CutAt (pattern : Text) : Text → List Text → Prop
  | last {p : Text} (hnone : ¬pattern <:+: p) : CutAt pattern p [p]
  | next {p rest : Text} {ps : List Text} (hleftmost : Leftmost pattern p rest)
      (hrest : CutAt pattern rest ps) : CutAt pattern (p ++ pattern ++ rest) (p :: ps)

/-- The parts between the occurrences of a pattern. An empty pattern occurs before every character and at the
end. -/
inductive Parts (pattern t : Text) : List Text → Prop
  | cut {ps : List Text} (hne : pattern ≠ []) (hcut : CutAt pattern t ps) : Parts pattern t ps
  | characters (hnil : pattern = []) : Parts pattern t ([] :: t.map (fun c => [c]) ++ [[]])

/-! ### Where the occurrences are -/

theorem Leftmost.of_cons {c : Char} (h : Leftmost pattern (c :: p) rest) : Leftmost pattern p rest := by
  intro before after heq
  have hcons := h (c :: before) after (by rw [List.cons_append, List.cons_append, heq]; rfl)
  exact Nat.le_of_succ_le_succ hcons

theorem Leftmost.not_prefix {c : Char} (h : Leftmost pattern (c :: p) rest) :
    ¬pattern <+: c :: (p ++ pattern ++ rest) := by
  rintro ⟨after, hafter⟩
  have hle := h [] after hafter.symm
  exact absurd hle (by simp)

theorem exists_leftmost (h : pattern <:+: t) : ∃ p rest, t = p ++ pattern ++ rest ∧ Leftmost pattern p rest := by
  induction t with
  | nil =>
      obtain rfl := List.infix_nil.mp h
      exact ⟨[], [], rfl, fun _ _ _ => Nat.zero_le _⟩
  | cons c t ih =>
      by_cases hprefix : pattern <+: c :: t
      · obtain ⟨rest, hrest⟩ := hprefix
        exact ⟨[], rest, hrest.symm, fun _ _ _ => Nat.zero_le _⟩
      obtain ⟨p, rest, rfl, hleftmost⟩ := ih ((List.infix_cons_iff.mp h).resolve_left hprefix)
      refine ⟨c :: p, rest, rfl, fun before after heq => ?_⟩
      cases before with
      | nil => exact absurd ⟨after, heq.symm⟩ hprefix
      | cons d before => exact Nat.succ_le_succ (hleftmost before after (List.cons.inj heq).2)

theorem Leftmost.unique {p' rest' : Text} (h : Leftmost pattern p rest) (h' : Leftmost pattern p' rest')
    (heq : p ++ pattern ++ rest = p' ++ pattern ++ rest') : p = p' ∧ rest = rest' := by
  have hlength : p.length = p'.length := Nat.le_antisymm (h p' rest' heq) (h' p rest heq.symm)
  rw [List.append_assoc, List.append_assoc] at heq
  obtain ⟨rfl, hback⟩ := List.append_inj heq hlength
  exact ⟨rfl, List.append_cancel_left hback⟩

/-! ### The parts -/

theorem CutAt.unique (h : CutAt pattern t ps) (h' : CutAt pattern t qs) : ps = qs := by
  induction h generalizing qs with
  | last hnone =>
      cases h' with
      | last => rfl
      | @next p rest => exact absurd ⟨p, rest, rfl⟩ hnone
  | @next p rest ps hleftmost _ ih =>
      generalize ht : p ++ pattern ++ rest = t at h'
      cases h' with
      | last hnone => exact absurd ⟨p, rest, ht⟩ hnone
      | next hleftmost' hrest' =>
          obtain ⟨rfl, rfl⟩ := hleftmost.unique hleftmost' ht
          rw [ih hrest']

/-- What is behind an occurrence is shorter than the text, so the cutting ends. -/
theorem exists_cutAt (hne : pattern ≠ []) (t : Text) : ∃ ps, CutAt pattern t ps := by
  have hpos := List.length_pos_of_ne_nil hne
  induction hlength : t.length using Nat.strong_induction_on generalizing t with
  | h n ih =>
      by_cases hinfix : pattern <:+: t
      · obtain ⟨p, rest, rfl, hleftmost⟩ := exists_leftmost hinfix
        rw [List.length_append, List.length_append] at hlength
        obtain ⟨ps, hps⟩ := ih rest.length (by omega) rest rfl
        exact ⟨p :: ps, .next hleftmost hps⟩
      · exact ⟨[t], .last hinfix⟩

theorem existsUnique_parts (pattern t : Text) : ∃! ps, Parts pattern t ps := by
  by_cases hnil : pattern = []
  · refine ⟨_, .characters hnil, fun qs hqs => ?_⟩
    cases hqs with
    | cut hne => exact absurd hnil hne
    | characters => rfl
  · obtain ⟨ps, hps⟩ := exists_cutAt hnil t
    refine ⟨ps, .cut hnil hps, fun qs hqs => ?_⟩
    cases hqs with
    | cut _ hcut => exact hcut.unique hps
    | characters hnil' => exact absurd hnil' hnil

/-! ### Replacing -/

theorem replaceFrom_skip (pattern replacement s t : Text) :
    replaceFrom pattern replacement s.length (s ++ t) = replaceFrom pattern replacement 0 t := by
  induction s with
  | nil => rfl
  | cons c s ih => exact ih

theorem replaceFrom_append_left (hne : pattern ≠ []) (replacement rest : Text) :
    replaceFrom pattern replacement 0 (pattern ++ rest) = replacement ++ replaceFrom pattern replacement 0 rest := by
  cases pattern with
  | nil => exact absurd rfl hne
  | cons c pattern =>
      have hprefix : (c :: pattern).isPrefixOf (c :: (pattern ++ rest)) = true :=
        List.isPrefixOf_iff_prefix.mpr ⟨rest, rfl⟩
      rw [List.cons_append, replaceFrom, if_pos hprefix, List.length_cons, Nat.add_sub_cancel]
      rw [replaceFrom_skip]

theorem replaceFrom_cons {c : Char} (h : ¬pattern <+: c :: t) (replacement : Text) :
    replaceFrom pattern replacement 0 (c :: t) = c :: replaceFrom pattern replacement 0 t := by
  rw [replaceFrom, if_neg (fun hprefix => h (List.isPrefixOf_iff_prefix.mp hprefix))]

theorem replaceFrom_of_absent (h : ¬pattern <:+: t) (replacement : Text) :
    replaceFrom pattern replacement 0 t = t := by
  induction t with
  | nil => rfl
  | cons c t ih =>
      rw [List.infix_cons_iff, not_or] at h
      rw [replaceFrom_cons h.1, ih h.2]

theorem replaceFrom_of_leftmost (hne : pattern ≠ []) (h : Leftmost pattern p rest) (replacement : Text) :
    replaceFrom pattern replacement 0 (p ++ pattern ++ rest)
      = p ++ replacement ++ replaceFrom pattern replacement 0 rest := by
  induction p with
  | nil => exact replaceFrom_append_left hne replacement rest
  | cons c p ih =>
      rw [List.cons_append, List.cons_append, replaceFrom_cons h.not_prefix, ih h.of_cons]
      rfl

theorem CutAt.replaceFrom_eq (hne : pattern ≠ []) (h : CutAt pattern t ps) (replacement : Text) :
    replaceFrom pattern replacement 0 t = replacement.intercalate ps := by
  induction h with
  | last hnone => simp [replaceFrom_of_absent hnone, List.intercalate]
  | next hleftmost hrest ih =>
      rw [replaceFrom_of_leftmost hne hleftmost, ih]
      cases hrest <;> simp [List.intercalate]

theorem intercalate_characters (replacement t : Text) :
    replacement.intercalate (t.map (fun c => [c]) ++ [[]]) = t.flatMap fun c => c :: replacement := by
  induction t with
  | nil => rfl
  | cons c t ih =>
      rw [List.flatMap_cons, ← ih]
      cases t <;> simp [List.intercalate]

theorem flatMap_append_rotate (replacement t : Text) :
    t.flatMap (fun c => replacement ++ [c]) ++ replacement = replacement ++ t.flatMap fun c => c :: replacement := by
  induction t with
  | nil => simp
  | cons c t ih => simp [ih]

/-- The parts of a text are joined with the replacement between them. -/
theorem Parts.replace_eq (h : Parts pattern t ps) (replacement : Text) :
    t.replace pattern replacement = replacement.intercalate ps := by
  cases h with
  | cut hne hcut =>
      rw [replace, if_neg (by simpa using hne)]
      exact hcut.replaceFrom_eq hne replacement
  | characters hnil =>
      subst hnil
      have hparts : replacement.intercalate ([] :: t.map (fun c => [c]) ++ [[]])
          = replacement ++ replacement.intercalate (t.map (fun c => [c]) ++ [[]]) := by
        cases t <;> simp [List.intercalate]
      rw [replace, if_pos List.isEmpty_nil, hparts, intercalate_characters, flatMap_append_rotate]

end Text

namespace TextMapping

variable {m : TextMapping} {ms : List TextMapping} {t u : Text}

/-- One pass over a text: its parts are joined with the replacement between them. -/
inductive Pass (m : TextMapping) (t : Text) : Text → Prop
  | join {ps : List Text} (hparts : Text.Parts m.pattern t ps) : Pass m t (m.replacement.intercalate ps)

/-- A pass for each mapping, in order and each over what the one before it left. -/
inductive Passes : List TextMapping → Text → Text → Prop
  | done (t : Text) : Passes [] t t
  | step {m : TextMapping} {ms : List TextMapping} {t u v : Text} (hpass : m.Pass t u) (hrest : Passes ms u v) :
      Passes (m :: ms) t v

theorem pass_iff : m.Pass t u ↔ m.apply t = u := by
  constructor
  · rintro ⟨hparts⟩
    exact hparts.replace_eq m.replacement
  · rintro rfl
    obtain ⟨ps, hparts, _⟩ := Text.existsUnique_parts m.pattern t
    rw [apply, hparts.replace_eq]
    exact .join hparts

theorem apply_of_absent (h : ¬m.pattern <:+: t) : m.apply t = t := by
  have hne : m.pattern ≠ [] := by
    intro hnil
    rw [hnil] at h
    exact h List.nil_infix
  rw [apply, (Text.Parts.cut hne (.last h)).replace_eq]
  simp [List.intercalate]

theorem passes_iff : Passes ms t u ↔ ms.foldl (fun t m => m.apply t) t = u := by
  induction ms generalizing t with
  | nil =>
      constructor
      · rintro ⟨⟩
        rfl
      · rintro rfl
        exact .done _
  | cons m ms ih =>
      rw [List.foldl_cons, ← ih]
      constructor
      · rintro (_ | ⟨hpass, hrest⟩)
        rwa [pass_iff.mp hpass]
      · exact fun hrest => .step (pass_iff.mpr rfl) hrest

theorem Passes.of_absent (h : ∀ m ∈ ms, ¬m.pattern <:+: t) : Passes ms t t := by
  induction ms with
  | nil => exact .done t
  | cons m ms ih =>
      obtain ⟨hm, hms⟩ := List.forall_mem_cons.mp h
      exact .step (pass_iff.mpr (apply_of_absent hm)) (ih hms)

end TextMapping

theorem Presentation.passes_mapText (p : Presentation) {t u : Text} :
    TextMapping.Passes (p.textMappings.getD []) t u ↔ p.mapText t = u :=
  TextMapping.passes_iff

end TypedTemplate
