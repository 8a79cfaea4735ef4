import TapSuite.Cli.Arguments
import TapSuite.Cli.Language
import TapSuite.Proofs.Results

/-!
# The language option, looked for and read

Where a command line is accepted, the language that is looked for among its bare words is the one
that its arguments have.

    Arguments.read words = .ok a →
      languageOption? words = a.language                          (languageOption?_eq_language)

Both go through the words from left to right.  What ties them together is the language of a reading
in the middle of a level (`Reading.language`), which counts the last option before it is settled.
No word that is some other option's value can look like the language option, since such a word is
refused.
-/

namespace TapSuite.Cli

/-! ## Looking for the language -/

/-- The last value of the language option among some words, the first of which is its value if one
is awaited. -/
def languageFrom (awaited : Bool) : List String → Option String
  | [] => none
  | word :: rest =>
    if awaited then (languageFrom false rest).or (some word)
    else if word = "--lang" then languageFrom true rest
    else (languageFrom false rest).or (languageIn? word)

theorem languageIn?_eq_some_iff {word value : String} :
    languageIn? word = some value ↔ word.toList = "--lang=".toList ++ value.toList := by
  unfold languageIn?
  constructor
  · intro h
    split at h
    · next heq =>
      cases h
      simp only [heq, String.toList_ofList]
      rfl
    · cases h
  · intro h
    rw [h]
    exact congrArg some String.ofList_toList

theorem languageIn?_mark : languageIn? "--lang" = none := by decide

theorem languageOption?_eq_languageFrom (words : List String) :
    languageOption? words = languageFrom false words := by
  induction words using languageOption?.induct with
  | case1 => rfl
  | case2 word =>
    rw [languageOption?, languageFrom, if_neg Bool.false_ne_true]
    split
    · next h => rw [h, languageIn?_mark]; rfl
    · rfl
  | case3 next rest ih =>
    rw [languageOption?, if_pos rfl, ih]
    rfl
  | case4 word next rest h ih =>
    have hword : languageFrom false (word :: next :: rest) =
        (languageFrom false (next :: rest)).or (languageIn? word) := by
      rw [languageFrom, if_neg Bool.false_ne_true, if_neg h]
    rw [languageOption?, if_neg h, ih, hword]

/-- A word that has nothing to do with the language option. -/
def Bystander (word : String) : Prop := word ≠ "--lang" ∧ languageIn? word = none

theorem languageFrom_bystander {word : String} (h : Bystander word) (rest : List String) :
    languageFrom false (word :: rest) = languageFrom false rest := by
  rw [languageFrom, if_neg Bool.false_ne_true, if_neg h.1, h.2, Option.or_none]

theorem bystander_of_not_isPrefix {word : String} (hmark : word ≠ "--lang")
    (hstart : ¬ "--lang=".toList <+: word.toList) : Bystander word := by
  refine ⟨hmark, ?_⟩
  cases h : languageIn? word with
  | none => rfl
  | some value => exact absurd ⟨_, (languageIn?_eq_some_iff.mp h).symm⟩ hstart

/-- A word that does not start with two dashes is a bystander. -/
theorem bystander_of_dashes {word : String} (h : ¬ ['-', '-'] <+: word.toList) :
    Bystander word := by
  refine bystander_of_not_isPrefix ?_ ?_
  · rintro rfl
    exact h ⟨"lang".toList, rfl⟩
  · rintro ⟨t, ht⟩
    exact h ⟨"lang=".toList ++ t, ht⟩

/-! ## Options -/

theorem eq_langOpt_of_mem {l : Level} {o : Opt} (ho : o ∈ l.options)
    (hlong : o.long = langOpt.long) : o = langOpt := by
  revert o
  cases l <;> decide

theorem mem_of_long? {l : Level} {name : List Char} {o : Opt} (h : l.long? name = some o) :
    o ∈ l.options ∧ o.long.toList = name := by
  unfold Level.long? at h
  exact ⟨List.mem_of_find?_eq_some h, by simpa using List.find?_some h⟩

theorem mem_of_short? {l : Level} {c : Char} {o : Opt} (h : l.short? c = some o) :
    o ∈ l.options ∧ o.short = some c := by
  unfold Level.short? at h
  exact ⟨List.mem_of_find?_eq_some h, by simpa using List.find?_some h⟩

/-- The language option has no short name. -/
theorem long_ne_of_short? {l : Level} {c : Char} {o : Opt} (h : l.short? c = some o) :
    o.long ≠ langOpt.long := by
  intro hlong
  obtain ⟨ho, hshort⟩ := mem_of_short? h
  rw [eq_langOpt_of_mem ho hlong] at hshort
  cases hshort

/-! ## The language of a reading -/

/-- Whether the last word was the language option, without its value. -/
def Reading.awaitsLanguage (r : Reading) : Bool :=
  match r.pending with
  | some (o, none) => o.long = langOpt.long
  | _ => false

/-- The language that a reading has when its last option is settled. -/
def Reading.language (r : Reading) : Option String :=
  match r.pending with
  | some (o, some value) =>
    if o.long = langOpt.long then some value else r.value? langOpt
  | _ => r.value? langOpt

theorem awaitsLanguage_of_awaits {r : Reading} (h : r.awaits = false) :
    r.awaitsLanguage = false := by
  unfold Reading.awaits at h
  unfold Reading.awaitsLanguage
  split
  · next hpending =>
    rw [hpending] at h
    cases h
  · rfl

theorem language_of_pending {r : Reading} (h : r.pending = none) :
    r.language = r.value? langOpt := by
  rw [Reading.language, h]

/-- The language that a reading has in the end if nothing but some words about the language
follows. -/
def Reading.languageAfter (r : Reading) (words : List String) : Option String :=
  (languageFrom r.awaitsLanguage words).or r.language

theorem Reading.languageAfter_nil (r : Reading) : r.languageAfter [] = r.language :=
  Option.none_or

theorem Reading.languageAfter_empty (words : List String) :
    ({} : Reading).languageAfter words = languageFrom false words :=
  Option.or_none

/-- Where a word has nothing to do with the language, nothing about the language changes. -/
theorem languageAfter_bystander {r r' : Reading} {word : String} (h : Bystander word)
    (hr : r.awaitsLanguage = false) (hwaits : r'.awaitsLanguage = false)
    (hlanguage : r'.language = r.language) (tail : List String) :
    r'.languageAfter tail = r.languageAfter (word :: tail) := by
  rw [Reading.languageAfter, Reading.languageAfter, hr, hwaits, hlanguage,
    languageFrom_bystander h]

theorem record_eq_ok {l : Level} {r r' : Reading} {o : Opt} {value : String}
    (h : r.record l o value = .ok r') :
    r'.pending = none ∧
      r'.value? langOpt = if o.long = langOpt.long then some value else r.value? langOpt := by
  unfold Reading.record at h
  split at h
  · cases h
  next hfresh =>
  split at h
  · cases h
  cases h
  refine ⟨rfl, ?_⟩
  unfold Reading.value?
  rw [List.lookup_append]
  split
  · next hlong =>
    rw [← hlong, Option.not_isSome_iff_eq_none.mp hfresh, Option.none_or, List.lookup_cons_self]
  · next hlong =>
    have hne : (langOpt.long == o.long) = false := beq_eq_false_iff_ne.mpr fun e => hlong e.symm
    rw [List.lookup_cons, hne, List.lookup_nil, Option.or_none]

theorem language_of_record {l : Level} {r r' : Reading} {o : Opt} {value : String}
    (h : r.record l o value = .ok r') :
    r'.awaitsLanguage = false ∧
      r'.language = if o.long = langOpt.long then some value else r.value? langOpt := by
  obtain ⟨hpending, hvalue⟩ := record_eq_ok h
  rw [Reading.awaitsLanguage, language_of_pending hpending, hvalue, hpending]
  exact ⟨rfl, rfl⟩

/-- Settling the last option changes nothing about the language, and it needs a value. -/
theorem settle_eq_ok {l : Level} {r r' : Reading} (h : r.settle l = .ok r') :
    r.awaits = false ∧ r'.value? langOpt = r.language := by
  unfold Reading.settle at h
  unfold Reading.awaits Reading.language
  split at h
  · next hpending =>
    cases h
    rw [hpending]
    exact ⟨rfl, rfl⟩
  · cases h
  · next o value hpending =>
    rw [hpending]
    exact ⟨rfl, (record_eq_ok h).2⟩

/-- The effect of an option on the language: none, unless it is the language option. -/
theorem option_eq_ok {l : Level} {r r' : Reading} {o : Opt} {value : Option String}
    (ho : o ∈ l.options) (h : r.option l o value = .ok r') :
    r.awaits = false ∧
      (o.long ≠ langOpt.long ∧ r'.awaitsLanguage = false ∧ r'.language = r.language ∨
        o = langOpt ∧ r'.awaitsLanguage = value.isNone ∧ r'.language = value.or r.language) := by
  unfold Reading.option at h
  split at h
  · cases h
  next settled hsettle =>
  obtain ⟨hawaits, hsettled⟩ := settle_eq_ok hsettle
  refine ⟨hawaits, ?_⟩
  split at h
  · cases h
  · cases h
  · next hkind =>
    have hlong : o.long ≠ langOpt.long := fun e => by
      rw [eq_langOpt_of_mem ho e] at hkind
      cases hkind
    obtain ⟨hwaits, hlanguage⟩ := language_of_record h
    exact .inl ⟨hlong, hwaits, by rw [hlanguage, if_neg hlong, hsettled]⟩
  · obtain ⟨hwaits, hlanguage⟩ := language_of_record h
    by_cases hlong : o.long = langOpt.long
    · exact .inr ⟨eq_langOpt_of_mem ho hlong, hwaits, by rw [hlanguage, if_pos hlong]; rfl⟩
    · exact .inl ⟨hlong, hwaits, by rw [hlanguage, if_neg hlong, hsettled]⟩
  · cases h
    by_cases hlong : o.long = langOpt.long
    · exact .inr ⟨eq_langOpt_of_mem ho hlong, decide_eq_true hlong, hsettled⟩
    · exact .inl ⟨hlong, decide_eq_false hlong, hsettled⟩

/-! ## Words -/

theorem eq_of_cutEquals (word : List Char) :
    word = (cutEquals word).1 ++ ((cutEquals word).2.elim [] fun value => '=' :: value.toList) := by
  unfold cutEquals
  have hcut := (List.takeWhile_append_dropWhile (p := (· ≠ '=')) (l := word)).symm
  split
  · next hrest =>
    rw [hrest] at hcut
    exact hcut
  · next c value hrest =>
    have hc : c = '=' := by
      have hhead := List.head?_dropWhile_not (p := (· ≠ '=')) (l := word)
      rw [hrest] at hhead
      simpa using hhead
    rw [hrest, hc] at hcut
    rwa [Option.elim, String.toList_ofList]

theorem cutEquals_lang : cutEquals "lang".toList = (langOpt.long.toList, none) := by decide

theorem cutEquals_lang_equals (value : List Char) :
    cutEquals ("lang=".toList ++ value) = (langOpt.long.toList, some (String.ofList value)) := rfl

/-- A word with two dashes names the language option, or it has nothing to do with it. -/
theorem bystander_of_long {word : String} {name : List Char} {o : Opt}
    (hword : word.toList = '-' :: '-' :: name) (ho : o.long.toList = (cutEquals name).1)
    (hlong : o.long ≠ langOpt.long) : Bystander word := by
  refine bystander_of_not_isPrefix ?_ ?_
  · rintro rfl
    have hname : name = "lang".toList := by cases hword; rfl
    rw [hname, cutEquals_lang] at ho
    exact hlong (String.toList_inj.mp ho)
  · rintro ⟨value, hvalue⟩
    rw [hword] at hvalue
    have hname : name = "lang=".toList ++ value := by cases hvalue; rfl
    rw [hname, cutEquals_lang_equals] at ho
    exact hlong (String.toList_inj.mp ho)

theorem long_eq_ok {l : Level} {r r' : Reading} {name : List Char} {rest : List String}
    (h : r.long l name rest = .ok r') :
    ∃ o ∈ l.options, ∃ value, cutEquals name = (o.long.toList, value) ∧
      r.option l o value = .ok r' := by
  unfold Reading.long at h
  split at h
  next long value hcut =>
  split at h
  · cases h
  · next o value hfound =>
    obtain ⟨ho, rfl⟩ := mem_of_long? hfound
    split at h
    · exact ⟨o, ho, some value, hcut, h⟩
    · cases h
  · next o hfound =>
    obtain ⟨ho, rfl⟩ := mem_of_long? hfound
    exact ⟨o, ho, none, hcut, h⟩

theorem languageAfter_long {l : Level} {r r' : Reading} {word : String} {name : List Char}
    {rest : List String} (hword : word.toList = '-' :: '-' :: name)
    (h : r.long l name rest = .ok r') (tail : List String) :
    r'.languageAfter tail = r.languageAfter (word :: tail) := by
  obtain ⟨o, ho, value, hcut, hoption⟩ := long_eq_ok h
  obtain ⟨hawaits, ⟨hlong, hwaits, hlanguage⟩ | ⟨rfl, hwaits, hlanguage⟩⟩ := option_eq_ok ho hoption
  · have hbystander : Bystander word := bystander_of_long hword (by rw [hcut]) hlong
    exact languageAfter_bystander hbystander (awaitsLanguage_of_awaits hawaits) hwaits hlanguage tail
  rw [Reading.languageAfter, Reading.languageAfter, hwaits, hlanguage,
    awaitsLanguage_of_awaits hawaits]
  have hname := eq_of_cutEquals name
  rw [hcut] at hname
  cases value with
  | none =>
    have : word = "--lang" := String.toList_inj.mp (by rw [hword, hname]; rfl)
    rw [this, languageFrom, if_neg Bool.false_ne_true, if_pos rfl]
    rfl
  | some value =>
    have hin : languageIn? word = some value := by
      rw [languageIn?_eq_some_iff, hword, hname]
      rfl
    have hne : word ≠ "--lang" := by
      rintro rfl
      cases languageIn?_mark.symm.trans hin
    rw [languageFrom, if_neg Bool.false_ne_true, if_neg hne, hin, Option.or_assoc]
    rfl

/-- A short option has nothing to do with the language. -/
theorem language_of_short? {l : Level} {r r' : Reading} {c : Char} {o : Opt}
    {value : Option String} (hfound : l.short? c = some o) (h : r.option l o value = .ok r') :
    r.awaits = false ∧ r'.awaitsLanguage = false ∧ r'.language = r.language := by
  obtain ⟨hawaits, ⟨-, hsame⟩ | ⟨rfl, -⟩⟩ := option_eq_ok (mem_of_short? hfound).1 h
  · exact ⟨hawaits, hsame⟩
  · exact absurd rfl (long_ne_of_short? hfound)

theorem short_eq_ok {l : Level} {r r' : Reading} {letters : List Char}
    (h : r.short l letters = .ok r') (hr : r.awaitsLanguage = false) :
    r'.awaitsLanguage = false ∧ r'.language = r.language := by
  induction letters generalizing r with
  | nil =>
    cases h
    exact ⟨hr, rfl⟩
  | cons c rest ih =>
    unfold Reading.short at h
    split at h
    · cases h
    next o hfound =>
    split at h
    · exact (language_of_short? hfound h).2
    · split at h
      · cases h
      next r₁ hoption =>
      obtain ⟨-, hwaits, hlanguage⟩ := language_of_short? hfound hoption
      rw [← hlanguage]
      exact ih h hwaits

theorem awaits_of_short {l : Level} {r r' : Reading} {c : Char} {letters : List Char}
    (h : r.short l (c :: letters) = .ok r') : r.awaits = false := by
  unfold Reading.short at h
  split at h
  · cases h
  next o hfound =>
  split at h
  · exact (language_of_short? hfound h).1
  · split at h
    · cases h
    next hoption => exact (language_of_short? hfound hoption).1

/-- One word says about the language what is looked for in it. -/
theorem languageAfter_word {l : Level} {r r' : Reading} {word : String} {rest : List String}
    (h : r.word l word rest = .ok r') (tail : List String) :
    r'.languageAfter tail = r.languageAfter (word :: tail) := by
  unfold Reading.word at h
  split at h
  · next name hword => exact languageAfter_long hword h tail
  · next c letters hone hword =>
    have hnone := awaitsLanguage_of_awaits (awaits_of_short h)
    obtain ⟨hwaits, hlanguage⟩ := short_eq_ok h hnone
    have hbystander : Bystander word := bystander_of_dashes <| by
      rintro ⟨name, hname⟩
      rw [hword] at hname
      cases hname
      exact hone rfl
    exact languageAfter_bystander hbystander hnone hwaits hlanguage tail
  · next hone htwo =>
    split at h
    · next o hpending =>
      cases h
      have hbystander : Bystander word := bystander_of_dashes <| by
        rintro ⟨name, hname⟩
        exact hone name hname.symm
      unfold Reading.languageAfter Reading.awaitsLanguage Reading.language
      rw [hpending]
      by_cases hlong : o.long = langOpt.long
      · simp only [hlong, decide_true, languageFrom, if_true, Option.or_assoc, Option.some_or]
      · simp only [hlong, decide_false, if_false, languageFrom_bystander hbystander]
        rfl
    · cases h

/-! ## Levels -/

theorem subcommands_of_lookup {l level : Level} {word : String}
    (h : l.subcommands.lookup word = some level) :
    Bystander word ∧ level.subcommands = [] := by
  have hall : ∀ entry ∈ l.subcommands,
      (entry.1 ≠ "--lang" ∧ languageIn? entry.1 = none) ∧ entry.2.subcommands = [] := by
    cases l <;> decide
  exact hall (word, level) (mem_of_lookup h)

/-- What is looked for in the words of a level and of the levels below is what the level has read
and what is still to be read below. -/
theorem languageAfter_readLevel {l : Level} {r : Reading} {words : List String}
    {read : LevelReading} (h : readLevel l r words = .ok read)
    (hdone : read.reading.awaits = false) :
    r.languageAfter words = read.reading.languageAfter (read.subcommand.elim [] (·.2)) := by
  induction words generalizing r with
  | nil =>
    cases h
    rfl
  | cons word rest ih =>
    unfold readLevel at h
    split at h
    -- the name of a subcommand ends the level, and what follows is read below
    · next level hlevel =>
      cases h
      rw [hdone, if_neg Bool.false_ne_true] at hlevel
      have hnone := awaitsLanguage_of_awaits hdone
      exact (languageAfter_bystander (subcommands_of_lookup hlevel).1 hnone hnone rfl rest).symm
    · split at h
      · next hdashes =>
        split at h
        · cases h
          rw [hdashes, Reading.languageAfter, Reading.languageAfter,
            awaitsLanguage_of_awaits hdone]
          rfl
        · cases h
      · split at h
        · cases h
        next hword => exact (languageAfter_word hword rest).symm.trans (ih h)

theorem lookup_of_readLevel {l level : Level} {r : Reading} {words rest : List String}
    {read : LevelReading} (h : readLevel l r words = .ok read)
    (hsub : read.subcommand = some (level, rest)) :
    ∃ word, l.subcommands.lookup word = some level := by
  induction words generalizing r with
  | nil =>
    cases h
    cases hsub
  | cons word words ih =>
    unfold readLevel at h
    split at h
    · next hlevel =>
      cases h
      cases hsub
      split at hlevel
      · cases hlevel
      · exact ⟨word, hlevel⟩
    · split at h
      · split at h <;> cases h
        cases hsub
      · split at h
        · cases h
        · exact ih h

/-- A level that is read to its end, without levels below, has the language that is looked for in
its words. -/
theorem value?_of_readSubcommand {l : Level} {words : List String} {r : Reading}
    (hl : l.subcommands = []) (h : readSubcommand l words = .ok r) :
    r.value? langOpt = languageFrom false words := by
  unfold readSubcommand at h
  split at h
  · cases h
  split at h
  · cases h
  next read hread =>
  obtain ⟨hdone, hvalue⟩ := settle_eq_ok h
  have hlast : read.subcommand = none := by
    cases hsub : read.subcommand with
    | none => rfl
    | some below =>
      obtain ⟨word, hword⟩ := lookup_of_readLevel hread hsub
      rw [hl] at hword
      cases hword
  have hafter := languageAfter_readLevel hread hdone
  rw [hlast, Option.elim, Reading.languageAfter_nil, Reading.languageAfter_empty] at hafter
  rw [hvalue, hafter]

theorem language_of_readWords {words : List String} {a : Arguments}
    (h : readWords words = .ok a) : a.language = languageFrom false words := by
  unfold readWords at h
  split at h
  · cases h
  · next outer hread =>
    obtain ⟨settled, hsettle, rfl⟩ := map_eq_ok.mp h
    obtain ⟨hdone, hvalue⟩ := settle_eq_ok hsettle
    have hafter := languageAfter_readLevel hread hdone
    rw [Option.elim, Reading.languageAfter_nil, Reading.languageAfter_empty] at hafter
    exact hvalue.trans hafter.symm
  · next outer level rest hread =>
    split at h
    · cases h
    next inner hinner =>
    obtain ⟨settled, hsettle, rfl⟩ := map_eq_ok.mp h
    obtain ⟨hdone, hvalue⟩ := settle_eq_ok hsettle
    obtain ⟨word, hlevel⟩ := lookup_of_readLevel hread rfl
    have hinnermost := value?_of_readSubcommand (subcommands_of_lookup hlevel).2 hinner
    have hafter := languageAfter_readLevel hread hdone
    rw [Option.elim, Reading.languageAfter_empty, Reading.languageAfter,
      awaitsLanguage_of_awaits hdone] at hafter
    -- what the level below has comes later on the command line, and counts first
    calc (inner.value? langOpt).or (settled.value? langOpt)
        = (languageFrom false rest).or outer.language := by rw [hinnermost, hvalue]
      _ = languageFrom false words := hafter.symm

/-! ## Command lines -/

/-- On a command line that is accepted, the language that is looked for is the one that is read. -/
theorem languageOption?_eq_language {words : List String} {a : Arguments}
    (hname : ∀ name ∈ words.head?, name ≠ "--lang" ∧ ¬ "--lang=".toList <+: name.toList)
    (h : Arguments.read words = .ok a) : languageOption? words = a.language := by
  rw [languageOption?_eq_languageFrom, language_of_readWords h]
  cases words with
  | nil => rfl
  | cons name rest =>
    obtain ⟨hmark, hstart⟩ := hname name rfl
    exact languageFrom_bystander (bystander_of_not_isPrefix hmark hstart) rest

/-- A language on both levels: the outer one is the name of a subcommand, the inner one is empty and
counts. -/
theorem languageOption?_eq_language_both :
    let words := ["suite-runner", "--lang", "run", "run", "-j4", "--lang=", "-c", "-", "--"]
    let a : RunArguments := { config := "-", configNamed := true, overrides := { jobs := some 4 } }
    Arguments.read words = .ok ⟨some "", .run a⟩ ∧ languageOption? words = some "" := by
  intro words a
  have hread : Arguments.read words = .ok ⟨some "", .run a⟩ := rfl
  have hname : ∀ name ∈ words.head?, name ≠ "--lang" ∧ ¬ "--lang=".toList <+: name.toList := by
    rintro name ⟨⟩
    decide
  exact ⟨hread, languageOption?_eq_language hname hread⟩

end TapSuite.Cli
