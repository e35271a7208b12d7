import Mathlib.Data.List.Sort
import Mathlib.Data.String.Basic
import TypedTemplate.Messages.Catalog
/-!
# Overlays

A catalog is known by the messages that it holds and by the languages that it lists. What is laid over it is
merged into its tables, and `message?_overlay` says what that comes to: the catalog on top is asked first, in
the same language and for the same key. The fallback language is a second question, put after both catalogs
were asked the first one, so that a message of the base in the language asked for is not hidden by an English
one on top of it. How overlays compose follows from these look-ups alone.
-/

namespace TypedTemplate

namespace Catalog

/-- The languages that a catalog lists: those of its tables, empty ones too, each once and in order. -/
structure ListsLanguages (c : Catalog) : Prop where
  mem_languages_iff : ∀ language, language ∈ c.languages ↔ ∃ messages, (language, messages) ∈ c
  pairwise_languages : c.languages.Pairwise (· < ·)
  nodup_languages : c.languages.Nodup

/-- A catalog that says what another one says when it is laid over a base. -/
structure Overlays (whole base top : Catalog) : Prop where
  message?_eq : ∀ language key,
    whole.message? language key = (top.message? language key).or (base.message? language key)
  localize_eq : ∀ language key,
    whole.localize language key
      = ((top.message? language key).or <| (base.message? language key).or <|
          (top.message? fallbackLanguage key).or <| base.message? fallbackLanguage key).getD key
  /-- Only a message in the same language hides one of the base. -/
  localize_of_base : ∀ language key message, base.message? language key = some message →
    whole.localize language key = (top.message? language key).getD message
  mem_languages_iff : ∀ language,
    language ∈ whole.languages ↔ language ∈ base.languages ∨ language ∈ top.languages

/-- Catalogs that nobody who asks for messages, texts or languages can tell apart. -/
structure Alike (c d : Catalog) : Prop where
  message?_eq : ∀ language key, c.message? language key = d.message? language key
  localize_eq : ∀ language key, c.localize language key = d.localize language key
  languages_eq : c.languages = d.languages

/-! ### Tables -/

section Tables

variable {α : Type} {change : Option α → α} {entries : List (String × α)} {key other : String}

theorem lookup_cons_eq_ite (entry : String × α) (entries : List (String × α)) :
    (entry :: entries).lookup key = if key = entry.1 then some entry.2 else entries.lookup key := by
  rw [List.lookup_cons]
  by_cases hkey : key = entry.1
  · rw [if_pos hkey, beq_iff_eq.mpr hkey]
  · rw [if_neg hkey, beq_eq_false_iff_ne.mpr hkey]

theorem lookup_alter :
    (alter key change entries).lookup other
      = if other = key then some (change (entries.lookup key)) else entries.lookup other := by
  induction entries with
  | nil => exact lookup_cons_eq_ite _ _
  | cons entry entries ih =>
      rw [alter]
      by_cases hentry : entry.1 = key
      · subst hentry
        rw [if_pos rfl, lookup_cons_eq_ite, lookup_cons_eq_ite, if_pos rfl, lookup_cons_eq_ite]
        split_ifs <;> rfl
      · rw [if_neg hentry, lookup_cons_eq_ite, ih, lookup_cons_eq_ite, if_neg (Ne.symm hentry),
          lookup_cons_eq_ite]
        by_cases hother : other = entry.1
        · rw [if_pos hother, if_neg (hother ▸ hentry), if_pos hother]
        · rw [if_neg hother, if_neg hother]

theorem mem_keys_alter :
    other ∈ (alter key change entries).map Prod.fst ↔ other = key ∨ other ∈ entries.map Prod.fst := by
  induction entries with
  | nil => simp [alter]
  | cons entry entries ih =>
      rw [alter]
      by_cases hentry : entry.1 = key
      · simp [hentry]
      · rw [if_neg hentry, List.map_cons, List.mem_cons, ih, List.map_cons, List.mem_cons, or_left_comm]

theorem lookup_addMessages (table messages : List (String × String)) :
    (addMessages table messages).lookup key = (messages.lookup key).or (table.lookup key) := by
  induction messages with
  | nil => rfl
  | cons message messages ih =>
      rw [addMessages, List.foldr_cons, lookup_alter, ← addMessages, ih, lookup_cons_eq_ite]
      by_cases hkey : key = message.1
      · rw [if_pos hkey, if_pos hkey, Option.some_or]
      · rw [if_neg hkey, if_neg hkey]

end Tables

/-! ### Messages -/

variable {c d base top : Catalog} {language key : String}

theorem message?_cons (table : String × List (String × String)) (c : Catalog) :
    message? (table :: c) language key
      = (if table.1 = language then table.2.lookup key else none).or (c.message? language key) := by
  rw [message?, List.findSome?_cons, ← message?]
  cases (if table.1 = language then table.2.lookup key else none) <;> rfl

theorem message?_addTable (table : String × List (String × String)) (c : Catalog) :
    (addTable table c).message? language key
      = (if table.1 = language then table.2.lookup key else none).or (c.message? language key) := by
  induction c with
  | nil =>
      rw [addTable, alter, message?_cons, lookup_addMessages]
      simp
  | cons first c ih =>
      rw [addTable, alter]
      by_cases hfirst : first.1 = table.1
      · rw [if_pos hfirst, message?_cons, message?_cons, lookup_addMessages, hfirst, Option.getD_some]
        by_cases hlanguage : table.1 = language <;> simp [hlanguage, Option.or_assoc]
      · rw [if_neg hfirst, ← addTable, message?_cons, ih, message?_cons]
        -- At most one of the two tables is that of the language.
        by_cases hlanguage : table.1 = language
        · simp [← hlanguage, hfirst]
        · simp [hlanguage]

theorem message?_overlay (base top : Catalog) :
    (base.overlay top).message? language key
      = (top.message? language key).or (base.message? language key) := by
  induction top with
  | nil => rfl
  | cons table top ih =>
      rw [overlay, List.foldr_cons, ← overlay, message?_addTable, ih, message?_cons, Option.or_assoc]

theorem localize_eq_getD (c : Catalog) :
    c.localize language key
      = ((c.message? language key).or (c.message? fallbackLanguage key)).getD key := by
  rw [localize]
  cases c.message? language key <;> rfl

/-! ### Languages -/

theorem mem_insertSorted {s t : String} {ts : List String} : s ∈ insertSorted t ts ↔ s = t ∨ s ∈ ts := by
  induction ts with
  | nil => simp [insertSorted]
  | cons u us ih =>
      rw [insertSorted]
      split_ifs with heq hlt
      · simp [heq]
      · exact List.mem_cons
      · rw [List.mem_cons, ih, List.mem_cons, or_left_comm]

theorem pairwise_insertSorted (t : String) {ts : List String} (hts : ts.Pairwise (· < ·)) :
    (insertSorted t ts).Pairwise (· < ·) := by
  induction ts with
  | nil => exact List.pairwise_singleton _ t
  | cons u us ih =>
      obtain ⟨hu, hus⟩ := List.pairwise_cons.mp hts
      rw [insertSorted]
      split_ifs with heq hlt
      · exact hts
      · refine List.pairwise_cons.mpr ⟨fun s hs => ?_, hts⟩
        rcases List.mem_cons.mp hs with rfl | hs
        · exact hlt
        · exact hlt.trans (hu s hs)
      · refine List.pairwise_cons.mpr ⟨fun s hs => ?_, ih hus⟩
        rcases mem_insertSorted.mp hs with rfl | hs
        · exact lt_of_le_of_ne (not_lt.mp hlt) (Ne.symm heq)
        · exact hu s hs

theorem mem_languages : language ∈ c.languages ↔ language ∈ c.map Prod.fst := by
  induction c with
  | nil => rfl
  | cons table c ih =>
      rw [languages, List.foldr_cons, ← languages, mem_insertSorted, ih, List.map_cons, List.mem_cons]

theorem pairwise_languages (c : Catalog) : c.languages.Pairwise (· < ·) := by
  induction c with
  | nil => exact List.Pairwise.nil
  | cons table c ih => exact pairwise_insertSorted table.1 ih

theorem mem_languages_overlay (base top : Catalog) :
    language ∈ (base.overlay top).languages ↔ language ∈ base.languages ∨ language ∈ top.languages := by
  rw [mem_languages, mem_languages, mem_languages]
  induction top with
  | nil => simp [overlay]
  | cons table top ih =>
      rw [overlay, List.foldr_cons, ← overlay, addTable, mem_keys_alter, ih, List.map_cons, List.mem_cons,
        or_left_comm]

theorem listsLanguages (c : Catalog) : c.ListsLanguages where
  mem_languages_iff language := by
    rw [mem_languages, List.mem_map]
    constructor
    · rintro ⟨⟨_, messages⟩, htable, rfl⟩
      exact ⟨messages, htable⟩
    · rintro ⟨messages, htable⟩
      exact ⟨_, htable, rfl⟩
  pairwise_languages := c.pairwise_languages
  nodup_languages := c.pairwise_languages.imp ne_of_lt

/-! ### Overlays -/

theorem overlays_overlay (base top : Catalog) : (base.overlay top).Overlays base top := by
  have hlocalize : ∀ language key,
      (base.overlay top).localize language key
        = ((top.message? language key).or <| (base.message? language key).or <|
            (top.message? fallbackLanguage key).or <| base.message? fallbackLanguage key).getD key := by
    intro language key
    rw [localize_eq_getD, message?_overlay, message?_overlay, Option.or_assoc]
  constructor
  case message?_eq => exact fun language key => message?_overlay base top
  case localize_eq => exact hlocalize
  case localize_of_base =>
    intro language key message hbase
    rw [hlocalize, hbase, Option.some_or]
    cases top.message? language key <;> rfl
  case mem_languages_iff => exact fun language => mem_languages_overlay base top

/-- Catalogs are alike as soon as they hold the same messages and have tables for the same languages. -/
theorem Alike.of_mem_languages_iff
    (hmessages : ∀ language key, c.message? language key = d.message? language key)
    (hlanguages : ∀ language, language ∈ c.languages ↔ language ∈ d.languages) : c.Alike d where
  message?_eq := hmessages
  localize_eq language key := by
    rw [localize_eq_getD, localize_eq_getD, hmessages, hmessages]
  languages_eq := c.pairwise_languages.eq_of_mem_iff d.pairwise_languages hlanguages

theorem alike_overlay_overlay (base middle top : Catalog) :
    ((base.overlay middle).overlay top).Alike (base.overlay (middle.overlay top)) := by
  apply Alike.of_mem_languages_iff
  · intro language key
    rw [message?_overlay, message?_overlay, message?_overlay, message?_overlay, Option.or_assoc]
  · intro language
    rw [mem_languages_overlay, mem_languages_overlay, mem_languages_overlay, mem_languages_overlay, or_assoc]

theorem alike_overlay_self (base top : Catalog) :
    ((base.overlay top).overlay top).Alike (base.overlay top) := by
  apply Alike.of_mem_languages_iff
  · intro language key
    rw [message?_overlay, message?_overlay, ← Option.or_assoc, Option.or_self]
  · intro language
    rw [mem_languages_overlay, mem_languages_overlay, or_assoc, or_self]

/-- Laying catalogs over one another is associative, doing it again changes nothing, and an overlay says what
the catalog on top says, or else the base, first in the language and then in the fallback language. -/
theorem overlays_compose :
    (∀ c : Catalog, c.ListsLanguages)
      ∧ (∀ base top : Catalog, (base.overlay top).Overlays base top)
      ∧ (∀ base middle top : Catalog,
          ((base.overlay middle).overlay top).Alike (base.overlay (middle.overlay top)))
      ∧ ∀ base top : Catalog, ((base.overlay top).overlay top).Alike (base.overlay top) :=
  ⟨listsLanguages, overlays_overlay, alike_overlay_overlay, alike_overlay_self⟩

/-- An English message on top gives way to one of the base in the language, and a table without messages is
listed. -/
example :
    let c := overlay [("de", [("k", "deutsch")])] [("fr", []), ("en", [("k", "English")])]
    c.localize "de" "k" = "deutsch" ∧ c.localize "fr" "k" = "English" ∧ c.languages = ["de", "en", "fr"] := by
  decide +kernel

end Catalog

end TypedTemplate
