import CueFront.Locale
import CueFront.Proofs.Bytes
import Mathlib.Data.List.Nodup

/-!
# The tool runs in a UTF-8 locale

An entry of an environment sets the variable that stands before its first equals sign (`nameOf?`).
Where no variable is set twice (`Distinct`), each has one value, and `inForce` is the locale that a
program takes: the first of the three locale variables that is set and not empty.  It is what
`effective` computes from the last entry of each kind (`effective_eq`).

`childEnvironment` keeps the environment, or it drops the two variables that decide before the
language does and sets one of them anew (`forced`).  So the locale that the tool takes mentions
UTF-8, no other variable is touched, and nothing happens a second time
(`childEnvironment_forces_utf8`).
-/

namespace CueFront

namespace Locale

/-! ## Variables -/

/-- The name of the variable that an entry sets: what stands before its first equals sign.  An
entry without equals sign sets no variable. -/
def nameOf? (entry : Bytes) : Option Bytes :=
  if Byte.equals ∈ entry then some (entry.takeWhile (· != Byte.equals)) else none

/-- No variable is set twice. -/
def Distinct (environment : Environment) : Prop := (environment.filterMap nameOf?).Nodup

instance : DecidablePred Distinct := fun environment =>
  inferInstanceAs (Decidable (environment.filterMap nameOf?).Nodup)

/-- The value of a variable, if it is set. -/
def value? (name : Bytes) (environment : Environment) : Option Bytes :=
  (environment.find? (nameOf? · == some name)).map (·.drop (name.length + 1))

/-- The variable that overrides all others. -/
def allName : Bytes := utf8 "LC_ALL"

/-- The variable for the character set. -/
def characterName : Bytes := utf8 "LC_CTYPE"

/-- The variable for everything that is not set otherwise. -/
def languageName : Bytes := utf8 "LANG"

/-- The value of the first of some variables that is set and not empty; empty if there is none. -/
def firstFilled (names : List Bytes) (environment : Environment) : Bytes :=
  ((names.filterMap (value? · environment)).find? (!·.isEmpty)).getD []

/-- The locale in force for characters. -/
def inForce (environment : Environment) : Bytes :=
  firstFilled [allName, characterName, languageName] environment

/-- The locale holds the name of UTF-8, in any case and with or without hyphens. -/
def NamesUtf8 (locale : Bytes) : Prop :=
  utf8 "utf8" <:+: (locale.filter (· != Byte.hyphen)).map Byte.toLower

/-- The entry sets one of the variables that decide before the language does. -/
def SetsCharacters (entry : Bytes) : Prop :=
  nameOf? entry = some allName ∨ nameOf? entry = some characterName

instance : DecidablePred SetsCharacters := fun entry =>
  inferInstanceAs (Decidable (nameOf? entry = some allName ∨ nameOf? entry = some characterName))

variable {name entry : Bytes} {environment : Environment}

theorem mentionsUtf8_iff {locale : Bytes} : mentionsUtf8 locale = true ↔ NamesUtf8 locale :=
  Bytes.contains_iff

theorem nameOf?_append (plain : Byte.equals ∉ name) (value : Bytes) :
    nameOf? (name ++ Byte.equals :: value) = some name := by
  rw [nameOf?, if_pos (by simp), Bytes.takeWhile_bne_append plain]

/-- An entry sets a variable when it starts with its name and an equals sign. -/
theorem nameOf?_eq_some (plain : Byte.equals ∉ name) :
    nameOf? entry = some name ↔ name ++ [Byte.equals] <+: entry := by
  constructor
  · intro named
    have split : Byte.equals ∈ entry := by
      by_contra absent
      rw [nameOf?, if_neg absent] at named
      cases named
    obtain ⟨front, value, rfl, first⟩ := List.eq_append_cons_of_mem split
    rw [nameOf?_append first] at named
    cases named
    exact ⟨value, by simp⟩
  · rintro ⟨value, rfl⟩
    rw [List.append_assoc]
    exact nameOf?_append plain value

theorem named_eq_isPrefixOf (plain : Byte.equals ∉ name) (entry : Bytes) :
    (nameOf? entry == some name) = (name ++ [Byte.equals]).isPrefixOf entry := by
  rw [Bool.eq_iff_iff, beq_iff_eq, List.isPrefixOf_iff_prefix, nameOf?_eq_some plain]

/-- A variable that is set once is set last where it is set first. -/
theorem getLast?_filter_named (distinct : Distinct environment) :
    (environment.filter (nameOf? · == some name)).getLast? =
      environment.find? (nameOf? · == some name) := by
  induction environment with
  | nil => rfl
  | cons entry rest ih =>
    cases named : nameOf? entry == some name with
    | false =>
      have later : Distinct rest :=
        distinct.sublist ((List.sublist_cons_self entry rest).filterMap _)
      rw [List.filter_cons_of_neg (by simp [named]), List.find?_cons_of_neg (by simp [named])]
      exact ih later
    | true =>
      have first : nameOf? entry = some name := beq_iff_eq.mp named
      have unset : rest.filter (nameOf? · == some name) = [] := by
        rw [Distinct, List.filterMap_cons_some first, List.nodup_cons] at distinct
        rw [List.filter_eq_nil_iff]
        intro other inside again
        exact distinct.1 (List.mem_filterMap.mpr ⟨other, inside, beq_iff_eq.mp again⟩)
      rw [List.filter_cons_of_pos (by simp [named]), List.find?_cons_of_pos (by simp [named]),
        unset]
      rfl

/-- Where no variable is set twice, what the front end finds is the value of the variable, or
nothing. -/
theorem valueOf_eq (name : Bytes) (plain : Byte.equals ∉ name) (distinct : Distinct environment) :
    valueOf (name ++ [Byte.equals]) environment = (value? name environment).getD [] := by
  have entries : environment.filter (name ++ [Byte.equals]).isPrefixOf =
      environment.filter (nameOf? · == some name) :=
    List.filter_congr fun entry _ => (named_eq_isPrefixOf plain entry).symm
  rw [valueOf, entries, getLast?_filter_named distinct, value?]
  cases environment.find? (nameOf? · == some name) with
  | none => rfl
  | some entry => simp

/-! ## The locale in force -/

/-- The first variable that is set and not empty decides. -/
theorem firstFilled_cons (name : Bytes) (names : List Bytes) (environment : Environment) :
    firstFilled (name :: names) environment =
      if !((value? name environment).getD []).isEmpty then (value? name environment).getD []
      else firstFilled names environment := by
  cases found : value? name environment with
  | none => simp [firstFilled, found]
  | some value => cases value <;> simp [firstFilled, found]

theorem firstFilled_single (name : Bytes) (environment : Environment) :
    firstFilled [name] environment = (value? name environment).getD [] := by
  rw [firstFilled_cons]
  cases (value? name environment).getD [] <;> rfl

/-- The last entries tell the locale in force. -/
theorem effective_eq (distinct : Distinct environment) :
    effective environment = inForce environment := by
  have ofAll : valueOf allEntry environment = (value? allName environment).getD [] :=
    valueOf_eq allName (by decide) distinct
  have ofCharacter : valueOf characterEntry environment =
      (value? characterName environment).getD [] := valueOf_eq characterName (by decide) distinct
  have ofLanguage : valueOf languageEntry environment =
      (value? languageName environment).getD [] := valueOf_eq languageName (by decide) distinct
  rw [inForce, firstFilled_cons, firstFilled_cons, firstFilled_single]
  simp only [effective, ofAll, ofCharacter, ofLanguage]

/-- The front end recognises the entries of the two variables that decide before the language. -/
theorem decidesCharacters_eq (entry : Bytes) :
    decidesCharacters entry = decide (SetsCharacters entry) := by
  have ofAll : (nameOf? entry == some allName) = allEntry.isPrefixOf entry :=
    named_eq_isPrefixOf (by decide) entry
  have ofCharacter : (nameOf? entry == some characterName) = characterEntry.isPrefixOf entry :=
    named_eq_isPrefixOf (by decide) entry
  rw [decidesCharacters, ← ofAll, ← ofCharacter, Bool.eq_iff_iff, Bool.or_eq_true, beq_iff_eq,
    beq_iff_eq, decide_eq_true_iff]
  rfl

/-! ## The forced environment -/

/-- The entry that sets the character set to UTF-8. -/
def utf8Entry : Bytes := characterEntry ++ utf8 "C.UTF-8"

/-- The environment with the character set alone deciding, and set to UTF-8. -/
def forced (environment : Environment) : Environment :=
  environment.filter (¬ SetsCharacters ·) ++ [utf8Entry]

/-- The environment stays as it is if UTF-8 is in force, and is forced otherwise. -/
theorem childEnvironment_eq (distinct : Distinct environment) :
    (NamesUtf8 (inForce environment) ∧ childEnvironment environment = environment) ∨
      (¬ NamesUtf8 (inForce environment) ∧
        childEnvironment environment = forced environment) := by
  have filters : environment.filter (!decidesCharacters ·) =
      environment.filter (¬ SetsCharacters ·) :=
    List.filter_congr fun entry _ => by rw [decidesCharacters_eq, decide_not]
  rw [childEnvironment, effective_eq distinct, ← mentionsUtf8_iff]
  split
  · next mentions => exact .inl ⟨mentions, rfl⟩
  · next silent => exact .inr ⟨silent, by rw [filters]; rfl⟩

theorem nameOf?_utf8Entry : nameOf? utf8Entry = some characterName := by decide

theorem distinct_forced (distinct : Distinct environment) : Distinct (forced environment) := by
  have kept : Distinct (environment.filter (¬ SetsCharacters ·)) :=
    distinct.sublist (List.filter_sublist.filterMap _)
  rw [forced, Distinct, List.filterMap_append, List.nodup_append]
  refine ⟨kept, by decide, ?_⟩
  intro name inside other new
  obtain ⟨entry, stays, named⟩ := List.mem_filterMap.mp inside
  obtain rfl : other = characterName := by simpa [nameOf?_utf8Entry] using new
  rintro rfl
  have apart : ¬ SetsCharacters entry := by simpa using (List.mem_filter.mp stays).2
  exact apart (.inr named)

/-- A variable that decides before the language does has its new value. -/
theorem value?_forced (decides : name = allName ∨ name = characterName) :
    value? name (forced environment) = value? name [utf8Entry] := by
  have unset : (environment.filter (¬ SetsCharacters ·)).find? (nameOf? · == some name) = none := by
    rw [List.find?_eq_none]
    intro entry stays named
    have apart : ¬ SetsCharacters entry := by simpa using (List.mem_filter.mp stays).2
    have set : nameOf? entry = some name := beq_iff_eq.mp named
    rcases decides with rfl | rfl
    · exact apart (.inl set)
    · exact apart (.inr set)
  rw [value?, forced, List.find?_append, unset]
  rfl

theorem inForce_forced (environment : Environment) :
    inForce (forced environment) = utf8 "C.UTF-8" := by
  have ofAll : value? allName (forced environment) = none := value?_forced (.inl rfl)
  have ofCharacter : value? characterName (forced environment) = some (utf8 "C.UTF-8") :=
    value?_forced (.inr rfl)
  rw [inForce, firstFilled_cons, firstFilled_cons, ofAll, ofCharacter]
  rfl

theorem namesUtf8_forced (environment : Environment) :
    NamesUtf8 (inForce (forced environment)) := by
  rw [inForce_forced, ← mentionsUtf8_iff]
  decide

/-- Forcing UTF-8 keeps all entries but those of the two variables. -/
theorem filter_forced (environment : Environment) :
    (forced environment).filter (¬ SetsCharacters ·) =
      environment.filter (¬ SetsCharacters ·) := by
  have added : [utf8Entry].filter (¬ SetsCharacters ·) = [] := by decide
  rw [forced, List.filter_append, List.filter_filter, added, List.append_nil]
  simp

/-- The tool runs in a UTF-8 locale, and nothing else changes.  Let no variable be set twice.

* No variable of the tool's environment is set twice either, and the locale in force there names
  UTF-8.
* The entries that set neither of the two variables ahead of the language are the same, in the same
  order, and the only entry that may be new sets the character set.
* Where the locale in force named UTF-8 before, the environment is kept as it is.
* The environment of the tool is not changed when it is prepared once more. -/
theorem childEnvironment_forces_utf8 {environment : Environment} (distinct : Distinct environment) :
    Distinct (childEnvironment environment) ∧
      NamesUtf8 (inForce (childEnvironment environment)) ∧
      (childEnvironment environment).filter (¬ SetsCharacters ·) =
        environment.filter (¬ SetsCharacters ·) ∧
      (∀ entry ∈ childEnvironment environment,
        entry ∈ environment ∨ nameOf? entry = some characterName) ∧
      (NamesUtf8 (inForce environment) → childEnvironment environment = environment) ∧
      childEnvironment (childEnvironment environment) = childEnvironment environment := by
  rcases childEnvironment_eq distinct with ⟨named, same⟩ | ⟨unnamed, same⟩
  · rw [same]
    exact ⟨distinct, named, rfl, fun entry inside => .inl inside, fun _ => rfl, same⟩
  · rw [same]
    refine ⟨distinct_forced distinct, namesUtf8_forced environment, filter_forced environment, ?_,
      fun named => absurd named unnamed, ?_⟩
    · intro entry inside
      rcases List.mem_append.mp inside with stays | new
      · exact .inl (List.mem_filter.mp stays).1
      · exact .inr (List.mem_singleton.mp new ▸ nameOf?_utf8Entry)
    · rcases childEnvironment_eq (distinct_forced distinct) with ⟨-, again⟩ | ⟨silent, -⟩
      · exact again
      · exact absurd (namesUtf8_forced environment) silent

/-- An environment with an empty variable that overrides, names that only begin like the others, an
entry without equals sign, and a language that nothing asks for. -/
def crowdedEnvironment : Environment :=
  [utf8 "LC_ALLX=C.UTF-8", utf8 "LC_ALL=", utf8 "=LANG=x", utf8 "LC_CTYPE=de_DE@euro",
    utf8 "LC_ALL", utf8 "LANG=en_US.utf-8"]

theorem crowdedEnvironment_forced :
    Distinct crowdedEnvironment ∧
      childEnvironment crowdedEnvironment =
        [utf8 "LC_ALLX=C.UTF-8", utf8 "=LANG=x", utf8 "LC_ALL", utf8 "LANG=en_US.utf-8",
          utf8 "LC_CTYPE=C.UTF-8"] ∧
      NamesUtf8 (inForce (childEnvironment crowdedEnvironment)) ∧
      childEnvironment (childEnvironment crowdedEnvironment) =
        childEnvironment crowdedEnvironment := by
  have distinct : Distinct crowdedEnvironment := by decide
  obtain ⟨-, named, -, -, -, again⟩ := childEnvironment_forces_utf8 distinct
  exact ⟨distinct, by decide, named, again⟩

end Locale

end CueFront
