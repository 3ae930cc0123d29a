import Courier.Decimal

/-!
# URLs

The parts of a URL, and its written form. A path is a list of segments, or, for a URL without an
authority such as a mail address, one plain text.
-/

namespace Courier

/-- The path of a URL. -/
inductive Url.Path
  /-- Segments, each behind a slash. -/
  | segments (parts : List String)
  /-- One text that is not divided. -/
  | plain (text : String)
  deriving DecidableEq, Repr

/-- A URL in parts, each as it is written. -/
structure Url where
  /-- The scheme, in lower case. -/
  scheme : String
  /-- The name in front of the host, empty where there is none. -/
  username : String := ""
  /-- The password behind that name. -/
  password : Option String := none
  /-- The host. -/
  host : Option String := none
  /-- The number behind the host, where it is not the usual one of the scheme. -/
  portNumber : Option Nat := none
  /-- The path. -/
  path : Url.Path
  /-- What follows a question mark. -/
  query : Option String := none
  /-- What follows a number sign. -/
  fragment : Option String := none
  deriving DecidableEq, Repr

namespace Url

/-- The schemes whose URLs have a host and segments, with the usual number behind the host. -/
def usualPort? (scheme : String) : Option Nat :=
  match scheme with
  | "http" | "ws" => some 80
  | "https" | "wss" => some 443
  | "ftp" => some 21
  | _ => none

/-- Whether a scheme is one of those that have a host and segments, or the one of files. -/
def isSpecial (scheme : String) : Bool := (usualPort? scheme).isSome || scheme == "file"

/-- The name and password in front of the host. -/
def userinfoText (u : Url) : String :=
  match u.username, u.password with
  | "", none => ""
  | name, none => name ++ "@"
  | name, some password => name ++ ":" ++ password ++ "@"

/-- The host with what belongs to it. -/
def authorityText (u : Url) : String :=
  match u.host with
  | none => ""
  | some host =>
    "//" ++ u.userinfoText ++ host ++
      match u.portNumber with
      | none => ""
      | some n => ":" ++ Decimal.text n

/-- The path. -/
def pathText (u : Url) : String :=
  match u.path with
  | .plain text => text
  | .segments parts =>
    let shield := if u.host.isNone && parts.head? == some "" && 1 < parts.length then "/." else ""
    shield ++ String.join (parts.map ("/" ++ ·))

/-- A part behind its sign, if it is there. -/
def optionalText (sign : String) : Option String → String
  | none => ""
  | some text => sign ++ text

/-- The written form of a URL. -/
def text (u : Url) : String :=
  u.scheme ++ ":" ++ u.authorityText ++ u.pathText ++ optionalText "?" u.query ++
    optionalText "#" u.fragment

/-- A URL without the name and password in front of its host. -/
def withoutUserinfo (u : Url) : Url := { u with username := "", password := none }

/-- A URL without what follows the number sign. -/
def withoutFragment (u : Url) : Url := { u with fragment := none }

end Url

end Courier
