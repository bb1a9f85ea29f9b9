import PageLoom.DevServer.Route

set_option autoImplicit false

/-! # Requests

A request begins with a line of a method, a target and a version. Only reading is served: with the
body, or without it. A line of two words is a request of the first version of all, which knows no
heads: what answers it is a body and nothing else. Such is also the answer to a line whose version
was not made out. -/

namespace PageLoom

/-- A request line that is understood. -/
structure Request where
  method : Text
  target : Text
  deriving DecidableEq, Repr

/-- Why a request line is not understood. -/
inductive LineFault where
  /-- There is nothing in it. -/
  | blank
  /-- The last word is no version. -/
  | noVersion (word : Text)
  /-- The version is one of later days. -/
  | laterVersion (number : Text)
  /-- There are too few words, or too many. -/
  | shape (line : Text)
  /-- Without a version, nothing can be asked for by this method. -/
  | noHead (method : Text)
  deriving DecidableEq

namespace Request

/-- The words of a line. -/
def wordsOf (line : Text) : List Text :=
  (Text.splitOn ' ' (line.map fun c => if Text.isBlank c then ' ' else c)).filter (¬ ·.isEmpty)

/-! ## Versions -/

/-- A part of a version's number. -/
def isNumber (t : Text) : Bool := 1 ≤ t.length && t.length ≤ 10 && t.all Char.isDigit

/-- The number of a version, as it is written. -/
def numberOf (word : Text) : Text := word.drop 5

/-- The major part of a version's number, if the word is a version. -/
def major? (word : Text) : Option Nat :=
  if "HTTP/".toList.isPrefixOf word then
    match Text.splitOn '.' (numberOf word) with
    | [major, minor] =>
        if isNumber major && isNumber minor then some (Text.digitsValue major) else none
    | _ => none
  else none

/-- The versions that are spoken come before this one. -/
def firstUnspoken : Nat := 2

/-! ## Lines -/

/-- The target with its leading slashes folded into one. -/
def foldSlashes (t : Text) : Text :=
  if "//".toList.isPrefixOf t then '/' :: t.dropWhile (· = '/') else t

/-- Reads a request line. -/
def ofLine (line : Text) : Except LineFault Request :=
  match wordsOf line with
  | [] => .error .blank
  | [_] => .error (.shape line)
  | [method, target] =>
      if method = "GET".toList then .ok ⟨method, foldSlashes target⟩ else .error (.noHead method)
  | method :: target :: rest =>
      let version := rest.getLastD []
      match major? version with
      | none => .error (.noVersion version)
      | some n =>
          if firstUnspoken ≤ n then .error (.laterVersion (numberOf version))
          else if rest.length ≠ 1 then .error (.shape line)
          else .ok ⟨method, foldSlashes target⟩

/-- Whether what answers a line has a head: the line names a version that is spoken, and not the
    first one. -/
def hasHead (line : Text) : Bool :=
  match wordsOf line with
  | _ :: _ :: version :: rest =>
      let last := rest.getLastD version
      last ≠ "HTTP/0.9".toList && (major? last).any fun n => n < firstUnspoken
  | _ => false

/-- The most octets that a request line may have. -/
def longestLine : Nat := 65536

/-- Whether a line is too long, with the two octets that end it. -/
def isTooLong (line : Text) : Bool := longestLine < line.length + 2

/-! ## Answers -/

/-- The note of a request that was answered. -/
def accessNote (line : Text) (status : Nat) : Entry :=
  .debug 3 ("127.0.0.1 \"" ++ line ++ "\" " ++ Text.ofNat status ++ " -")

/-- The notes of a response. -/
def responseNotes (line : Text) (r : Response) : List Entry :=
  (if r.isFailure then
    [.debug 3 ("127.0.0.1 code " ++ Text.ofNat r.status ++ ", message " ++ r.reason)] else []) ++
  [accessNote line r.status]

/-- A response, and the notes of it. -/
def respond (line : Text) (r : Response) : ServerAnswer × List Entry :=
  (.response r, responseNotes line r)

/-- The answer to a line that is not understood. -/
def refuse (line : Text) : LineFault → ServerAnswer × List Entry
  | .blank => (.none .blank, [])
  | .noVersion word =>
      respond line (.badRequest ("Bad request version (" ++ PageValue.declareText word ++ ")"))
  | .laterVersion number => respond line (.laterVersion number)
  | .shape line' =>
      respond line (.badRequest ("Bad request syntax (" ++ PageValue.declareText line' ++ ")"))
  | .noHead method =>
      respond line
        (.badRequest ("Bad HTTP/0.9 request type (" ++ PageValue.declareText method ++ ")"))

/-- An answer that was decided, with the notes of what is written: without its body if only the head
    is asked for. -/
def conclude (line : Text) (bodiless : Bool) :
    ServerAnswer × List Entry → ServerAnswer × List Entry
  | (.response r, notes) =>
      (.response (if bodiless then r.withoutBody else r), notes ++ responseNotes line r)
  | (.stream, notes) => (.stream, notes ++ responseNotes line .streamHead)
  | (.none fault, notes) => (.none fault, notes)

/-- The answer to a request line that was read to its end, and what is noted. -/
def answer (s : DevSite) (tree : FileTree) (m : Renderer) (line : Text) :
    ServerAnswer × List Entry :=
  match ofLine line with
  | .error fault => refuse line fault
  | .ok request =>
      if request.method = "GET".toList then
        conclude line false (s.answerTarget tree m request.target)
      else if request.method = "HEAD".toList then
        match s.answerTarget tree m request.target with
        | (.stream, notes) => conclude line true (.response .streamHead, notes)
        | other => conclude line true other
      else respond line (.unsupported request.method)

end Request
end PageLoom
