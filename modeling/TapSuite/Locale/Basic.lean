import TapSuite.Locale.Catalog

/-!
# Locales

The languages that messages exist in, which of them serves a requested locale, and the message that
a locale gets.

    resolve "en-GB" = "en"       resolve "zh-CN" = "zh-CN"       resolve "zh" = "en"
    lookUp? "zh-CN-x" finds Chinese messages, lookUp? "zh" English ones

A request is served by the language of that very name, else by the language that it starts with,
else by English.  A message is looked up in the locale itself, then in what is left of it when its
last part is dropped, again and again, and then in English.
-/

namespace TapSuite.Locale

def available : List String := ["en", "zh-CN"]

/-- The language of messages that exist in no other. -/
def fallback : String := "en"

/-! ## Requests -/

/-- The part of a locale's name before the first `-` or `_`. -/
def primary (requested : String) : String :=
  String.ofList (requested.toList.takeWhile fun c => c ≠ '-' ∧ c ≠ '_')

/-- The available language that serves a request best. -/
def resolve (requested : String) : String :=
  if requested ∈ available then requested
  else if primary requested ∈ available then primary requested
  else fallback

/-! ## Messages -/

/-- The proper prefixes of a name that end before a `-`, the longest first. -/
def parents : List Char → List (List Char)
  | [] => []
  | c :: t =>
    let longer := (parents t).map (c :: ·)
    if c = '-' then longer ++ [[]] else longer

/-- The locales that a message is looked up in, in this order. -/
def chain (locale : String) : List String :=
  locale :: (parents locale.toList).map String.ofList ++ [fallback]

def messageIn? (e : CatalogEntry) (language : String) : Option Message :=
  if language = "en" then some e.english
  else if language = "zh-CN" then some e.chinese
  else none

def lookUp? (locale key : String) : Option Message :=
  match catalog.find? (·.key = key) with
  | none => none
  | some e => (chain locale).findSome? (messageIn? e)

/-- What stands for a message that does not exist. -/
def missing (locale key : String) : String := if locale.isEmpty then key else locale ++ "." ++ key

/-- The text of a message with its places marked. -/
def template (locale key : String) : String :=
  match lookUp? locale key with
  | some m => m.template
  | none => missing locale key

/-- The text of a message with values in its places. -/
def say (locale key : String) (values : List (String × String) := []) : String :=
  match lookUp? locale key with
  | some m => m.fill values
  | none => missing locale key

end TapSuite.Locale
