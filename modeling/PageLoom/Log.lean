import PageLoom.Text.Basic

set_option autoImplicit false

/-! # Log entries

Every step of the program notes what it does, each note with the verbosity it takes to show it.
Which notes are shown is decided by the verbosity alone and changes nothing else. -/

namespace PageLoom

/-- How serious a note is. -/
inductive Severity where
  | trace
  | debug
  | info
  | success
  | warning
  | error
  | critical
  deriving DecidableEq, Repr

/-- The name that stands before a note. -/
def Severity.name : Severity → Text
  | .trace => "TRACE"
  | .debug => "DEBUG"
  | .info => "INFO"
  | .success => "SUCCESS"
  | .warning => "WARNING"
  | .error => "ERROR"
  | .critical => "CRITICAL"

/-- The severity of a name. -/
def Severity.ofName? (name : Text) : Option Severity :=
  [trace, debug, info, success, warning, error, critical].find? (·.name = name)

/-- A note. -/
structure Entry where
  severity : Severity
  /-- The least verbosity that shows the note. -/
  level : Int
  message : Text
  deriving DecidableEq, Repr

namespace Entry

/-- A plain note for the given verbosity. -/
def debug (level : Int) (message : Text) : Entry := ⟨.debug, level, message⟩

/-- An informative note, shown by default. -/
def info (message : Text) : Entry := ⟨.info, 1, message⟩

/-- A warning, shown by default. -/
def warning (message : Text) : Entry := ⟨.warning, 1, message⟩

/-- An error, shown by default. -/
def error (message : Text) : Entry := ⟨.error, 1, message⟩

/-- Whether a verbosity shows the note. -/
def shownAt (verbosity : Int) (e : Entry) : Bool := e.level ≤ verbosity

/-- The line of a note. -/
def line (e : Entry) : Text := e.severity.name ++ '|' :: e.message

end Entry

/-- The notes that a verbosity shows. -/
def shownEntries (verbosity : Int) (entries : List Entry) : List Entry :=
  entries.filter (·.shownAt verbosity)

theorem shownEntries_append (verbosity : Int) (s t : List Entry) :
    shownEntries verbosity (s ++ t) = shownEntries verbosity s ++ shownEntries verbosity t :=
  List.filter_append ..

/-- What a higher verbosity hides, a lower one hides too. -/
theorem shownEntries_shownEntries {v w : Int} (h : v ≤ w) (entries : List Entry) :
    shownEntries v (shownEntries w entries) = shownEntries v entries := by
  simp only [shownEntries, List.filter_filter]
  congr 1
  funext e
  simp only [Entry.shownAt, Bool.and_eq_left_iff_imp, decide_eq_true_eq]
  omega

end PageLoom
