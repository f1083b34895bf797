import RelativeTime.Config

/-!
# Locales

A locale adds spellings: keywords for the current time, and names for units that are already there
under their codes. It never defines what a unit does. Spellings are matched exactly, so `Woche` is a
unit and `woche` is not.
-/

namespace RelativeTime

/-- The languages with spellings of their own. -/
inductive Locale where
  | de
  | es
  | fr
  | ru
  deriving DecidableEq

namespace Locale

def all : List Locale := [.de, .es, .fr, .ru]

def code : Locale → String
  | .de => "de"
  | .es => "es"
  | .fr => "fr"
  | .ru => "ru"

def ofCode? (code : String) : Option Locale :=
  all.find? (·.code = code)

def keywords : Locale → List String
  | .de => ["jetzt"]
  | .es => ["ahora"]
  | .fr => ["maintenant"]
  | .ru => ["сейчас"]

def spellings : Locale → List (String × List String)
  | .de => [
      ("ms", ["Millisekunde", "Millisekunden"]),
      ("s", ["Sekunde", "Sekunden"]),
      ("m", ["Minute", "Minuten"]),
      ("h", ["Stunde", "Stunden"]),
      ("d", ["Tag", "Tage", "Tagen"]),
      ("w", ["Woche", "Wochen"]),
      ("mo", ["Monat", "Monate", "Monaten"]),
      ("y", ["Jahr", "Jahre", "Jahren"])]
  | .es => [
      ("s", ["segundo", "segundos"]),
      ("m", ["minuto", "minutos"]),
      ("h", ["hora", "horas"]),
      ("d", ["día", "días"]),
      ("w", ["semana", "semanas"]),
      ("mo", ["mes", "meses"]),
      ("y", ["año", "años"])]
  | .fr => [
      ("s", ["seconde", "secondes"]),
      ("m", ["minute", "minutes"]),
      ("h", ["heure", "heures"]),
      ("d", ["jour", "jours"]),
      ("w", ["semaine", "semaines"]),
      ("mo", ["mois"]),
      ("y", ["an", "ans", "année", "années"])]
  | .ru => [
      ("ms", ["мс"]),
      ("s", ["с", "сек"]),
      ("m", ["мин"]),
      ("h", ["ч"]),
      ("d", ["д", "дн", "день", "дня", "дней"]),
      ("w", ["нед", "неделя", "недели", "недель"]),
      ("mo", ["мес", "месяц", "месяца", "месяцев"]),
      ("y", ["г", "год", "года", "лет"])]

def aliases (locale : Locale) : List (String × String) :=
  locale.spellings.flatMap fun (code, names) => names.map (·, code)

def aliasesOf (code : String) : Except ConfigError (List (String × String)) :=
  match ofCode? code with
  | some locale => .ok locale.aliases
  | none => .error (.unknownLocale code)

end Locale

namespace Config

variable {υ ζ : Type} [DecidableEq υ]

/-- The configuration that also accepts the keywords and the spellings of a locale. -/
def withLocale (config : Config υ ζ) (locale : Locale) : Except ConfigError (Config υ ζ) := do
  let units ← config.units.extend locale.aliases
  let fresh := locale.keywords.filter fun keyword => !config.keywords.contains keyword
  return { config with units, keywords := config.keywords ++ fresh }

/-- The configuration that also accepts the locale with the given code. -/
def withLocaleCode (config : Config υ ζ) (code : String) : Except ConfigError (Config υ ζ) :=
  match Locale.ofCode? code with
  | some locale => config.withLocale locale
  | none => .error (.unknownLocale code)

/-- The configuration that also accepts the locales with the given codes. -/
def withLocales (config : Config υ ζ) (codes : List String) : Except ConfigError (Config υ ζ) :=
  codes.foldlM withLocaleCode config

end Config

end RelativeTime
