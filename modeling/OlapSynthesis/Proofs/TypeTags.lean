import OlapSynthesis.Column
import OlapSynthesis.Proofs.Text

namespace OlapSynthesis

/-- The letters of a date are the first four bytes; a cut within a character yields no letters. -/
theorem isDateTag_iff_firstBytes {tag : String} :
    isDateTag tag = true ↔ ∃ first, Text.firstBytes? 4 tag.toList = some first ∧
      Text.sameIgnoringCase (String.ofList first) "date" = true := by
  constructor
  · intro h
    have hsame : Text.sameIgnoringCase (String.ofList (tag.toList.take 4)) "date" = true := by
      rwa [Text.sameIgnoringCase, String.toList_ofList]
    have hbytes := Text.utf8Size_of_sameIgnoringCase (by decide) hsame
    rw [String.toList_ofList] at hbytes
    exact ⟨_, Text.firstBytes?_eq_take hbytes, hsame⟩
  · rintro ⟨first, hfirst, hsame⟩
    obtain ⟨rest, hrest⟩ := Text.prefix_of_firstBytes? hfirst
    apply Text.startsIgnoringCase_iff.mpr
    refine ⟨String.ofList first, String.ofList rest, ?_, hsame⟩
    rw [← String.ofList_append, hrest, String.ofList_toList]

namespace ColumnType

variable {text tag word : String} {type : ColumnType}

def words : List (String × ColumnType) :=
  [("int", .int), ("integer", .int), ("long", .long), ("float", .float), ("double", .double),
    ("string", .string)]

/-- The type that a tag names, whatever the case of its letters. A date keeps the whole tag. -/
inductive Names (tag : String) : ColumnType → Prop
  | word {word : String} {type : ColumnType} (hword : (word, type) ∈ words)
      (same : Text.sameIgnoringCase tag word = true) : Names tag type
  | date {letters pattern : String} (htag : tag = letters ++ pattern)
      (same : Text.sameIgnoringCase letters "date" = true) : Names tag (.date tag)

theorem named?_eq_some_iff : named? word = some type ↔ (word, type) ∈ words := by
  simp only [named?, words, List.mem_cons, List.not_mem_nil, or_false, Prod.mk.injEq]
  grind

theorem lower_eq_iff_of_mem_words (hword : (word, type) ∈ words) :
    Text.lower tag = word ↔ Text.sameIgnoringCase tag word = true := by
  have hlower : ∀ entry ∈ words, Text.lower entry.1 = entry.1 := by decide
  apply Text.lower_eq_iff
  exact hlower _ hword

theorem isDateTag_of_word (hword : (word, type) ∈ words)
    (same : Text.sameIgnoringCase tag word = true) : isDateTag tag = false := by
  have hwords : ∀ entry ∈ words, isDateTag entry.1 = false := by decide
  rw [← hwords _ hword]
  exact Text.startsIgnoringCase_congr same "date"

theorem Names.ne_empty (h : Names tag type) : tag ≠ "" := by
  rintro rfl
  cases h with
  | word hword same =>
    have hwords : ∀ entry ∈ words, Text.sameIgnoringCase "" entry.1 = false := by decide
    exact absurd same (Bool.eq_false_iff.mp (hwords _ hword))
  | date htag same =>
    have hdate := Text.startsIgnoringCase_iff.mpr ⟨_, _, htag, same⟩
    exact absurd hdate (by decide)

theorem parse_eq_ok_iff : parse text = .ok type ↔ Names (Text.trim text) type := by
  constructor
  · intro h
    simp only [parse] at h
    split at h
    · cases h
    · split at h
      next hdate =>
        cases h
        obtain ⟨letters, pattern, htag, same⟩ := Text.startsIgnoringCase_iff.mp hdate
        exact .date htag same
      next =>
        split at h
        next hnamed =>
          cases h
          have hword := named?_eq_some_iff.mp hnamed
          exact .word hword ((lower_eq_iff_of_mem_words hword).mp rfl)
        next => cases h
  · intro h
    rw [parse, if_neg h.ne_empty]
    cases h with
    | word hword same =>
      have hnamed := named?_eq_some_iff.mpr hword
      rw [← (lower_eq_iff_of_mem_words hword).mpr same] at hnamed
      rw [isDateTag_of_word hword same, hnamed]
      rfl
    | date htag same => exact if_pos (Text.startsIgnoringCase_iff.mpr ⟨_, _, htag, same⟩)

theorem exists_names_iff :
    (∃ type, Names tag type) ↔
      (∃ letters pattern, tag = letters ++ pattern ∧
        Text.sameIgnoringCase letters "date" = true) ∨
      ∃ word ∈ ["int", "integer", "long", "float", "double", "string"],
        Text.sameIgnoringCase tag word = true := by
  have hwords : ["int", "integer", "long", "float", "double", "string"] = words.map (·.1) := rfl
  rw [hwords]
  constructor
  · rintro ⟨type, h⟩
    cases h with
    | word hword same => exact .inr ⟨_, List.mem_map_of_mem hword, same⟩
    | date htag same => exact .inl ⟨_, _, htag, same⟩
  · rintro (⟨letters, pattern, htag, same⟩ | ⟨word, hword, same⟩)
    · exact ⟨_, .date htag same⟩
    · obtain ⟨entry, hentry, rfl⟩ := List.mem_map.mp hword
      exact ⟨entry.2, .word hentry same⟩

namespace Names

variable (h : Names tag type)

include h

theorem tag_self : Names type.tag type := by
  cases h with
  | @word word _ hword same =>
    have hwords : ∀ entry ∈ words, (entry.2.tag, entry.2) ∈ words := by decide
    have hown := hwords (word, type) hword
    exact .word hown (Text.sameIgnoringCase_self type.tag)
  | date htag same => exact .date htag same

theorem trim_tag (htrim : Text.trim tag = tag) : Text.trim type.tag = type.tag := by
  cases h with
  | @word word _ hword same =>
    have hwords : ∀ entry ∈ words, Text.trim entry.2.tag = entry.2.tag := by decide +kernel
    exact hwords (word, type) hword
  | date htag same => exact htrim

theorem isDate_eq : type.isDate = isDateTag tag := by
  cases h with
  | word hword same =>
    have hwords : ∀ entry ∈ words, entry.2.isDate = false := by decide
    rw [isDateTag_of_word hword same, hwords _ hword]
  | date htag same => exact (Text.startsIgnoringCase_iff.mpr ⟨_, _, htag, same⟩).symm

theorem eq_of_isDate (hdate : type.isDate = true) : type = .date tag := by
  cases h with
  | word hword same =>
    have hwords : ∀ entry ∈ words, entry.2.isDate = false := by decide
    exact absurd hdate (Bool.eq_false_iff.mp (hwords _ hword))
  | date => rfl

/-- A tag that names a type is not cut within a character by its fourth byte. -/
theorem firstBytes?_ne_none : Text.firstBytes? 4 tag.toList ≠ none := by
  cases h with
  | word hword same =>
    have hwords : ∀ entry ∈ words, entry.1.toList.all (·.toLower.utf8Size == 1) = true := by
      decide
    have hbytes := Text.utf8Size_of_sameIgnoringCase (hwords _ hword) same
    rw [Text.firstBytes?_eq_take fun c hc => hbytes c (List.mem_of_mem_take hc)]
    exact Option.some_ne_none _
  | date htag same =>
    have hdate := Text.startsIgnoringCase_iff.mpr ⟨_, _, htag, same⟩
    obtain ⟨first, hfirst, -⟩ := isDateTag_iff_firstBytes.mp hdate
    rw [hfirst]
    exact Option.some_ne_none _

end Names

theorem parse_tag_of_parse (h : parse text = .ok type) : parse type.tag = .ok type := by
  have hnames := parse_eq_ok_iff.mp h
  apply parse_eq_ok_iff.mpr
  rw [hnames.trim_tag (Text.trim_trim text)]
  exact hnames.tag_self

theorem parse_surrounded {before after : String} (hbefore : Text.isBlank before = true)
    (hafter : Text.isBlank after = true) (text : String) :
    parse (before ++ text ++ after) = parse text := by
  rw [parse, Text.trim_surrounded hbefore hafter, parse]

/-- A tag that names a type: one of the date family, or one of six words. -/
def Known (tag : String) : Prop :=
  isDateTag (Text.trim tag) = true ∨
    Text.lower (Text.trim tag) ∈ ["int", "integer", "long", "float", "double", "string"]

theorem named?_eq_none_iff {word : String} :
    named? word = none ↔ word ∉ ["int", "integer", "long", "float", "double", "string"] := by
  simp only [named?, List.mem_cons, List.not_mem_nil, or_false, not_or]
  grind

theorem parse_eq_error_iff (tagged : Text.trim tag ≠ "") {cause : ColumnError} :
    parse tag = .error cause ↔ ¬ Known tag ∧ cause = .unknownType (Text.trim tag) := by
  rw [parse, if_neg tagged, Known, not_or, ← named?_eq_none_iff]
  cases hdate : isDateTag (Text.trim tag) with
  | true => simp
  | false =>
    cases hnamed : named? (Text.lower (Text.trim tag)) with
    | some type => simp
    | none => simp [eq_comm]

theorem parse_eq_unknownType (tagged : Text.trim text ≠ "") (h : ∀ type, parse text ≠ .ok type) :
    parse text = .error (.unknownType (Text.trim text)) := by
  cases hparse : parse text with
  | ok type => exact absurd hparse (h type)
  | error cause =>
    obtain ⟨-, hcause⟩ := (parse_eq_error_iff tagged).mp hparse
    rw [hcause]

/-- A text names a type exactly if, without the white space around it, it begins with the four
letters of a date or is one of six words, in any case; otherwise it is blank or an unknown type, also
where the four letters would end within a character. The tag of the type that it names leads back to
that type, a date has the text itself as its tag, and white space around a tag does not matter. -/
theorem parse_exact_and_canonical (text : String) :
    (∀ type, parse text = .ok type ↔ Names (Text.trim text) type) ∧
    ((∃ type, parse text = .ok type) ↔
      (∃ letters pattern, Text.trim text = letters ++ pattern ∧
        Text.sameIgnoringCase letters "date" = true) ∨
      ∃ word ∈ ["int", "integer", "long", "float", "double", "string"],
        Text.sameIgnoringCase (Text.trim text) word = true) ∧
    (Text.trim text = "" → parse text = .error (.blank "" "")) ∧
    (Text.trim text ≠ "" → (∀ type, parse text ≠ .ok type) →
      parse text = .error (.unknownType (Text.trim text))) ∧
    (Text.firstBytes? 4 (Text.trim text).toList = none →
      parse text = .error (.unknownType (Text.trim text))) ∧
    ∀ type, parse text = .ok type →
      parse type.tag = .ok type ∧
      (type.isDate = true → type = .date (Text.trim text)) ∧
      type.isDate = isDateTag (Text.trim text) ∧
      ∀ before after, Text.isBlank before = true → Text.isBlank after = true →
        parse (before ++ type.tag ++ after) = .ok type := by
  have hnames : ∀ type, parse text = .ok type ↔ Names (Text.trim text) type := by
    intro type
    exact parse_eq_ok_iff
  refine ⟨hnames, ?_, ?_, parse_eq_unknownType, ?_, ?_⟩
  · simp only [hnames]
    exact exists_names_iff
  · intro hempty
    rw [parse, if_pos hempty]
  · intro hcut
    apply parse_eq_unknownType
    · intro hempty
      rw [hempty] at hcut
      cases hcut
    · intro type h
      exact ((hnames type).mp h).firstBytes?_ne_none hcut
  · intro type h
    have hown := (hnames type).mp h
    have htag := parse_tag_of_parse h
    refine ⟨htag, hown.eq_of_isDate, hown.isDate_eq, ?_⟩
    intro before after hbefore hafter
    rw [parse_surrounded hbefore hafter, htag]

example : parse " daté " = .error (.unknownType "daté") := by
  decide +kernel

end ColumnType

end OlapSynthesis
