import Courier.Url
import Courier.Url.Host
import Courier.Url.Segments

/-!
# Reading URLs

A text is read as a URL, alone or against a base that lends it the parts it leaves out. Blanks and
controls around the text do not count, nor do tabs and line ends within. What is read is normal:

* the scheme in lower case, the usual number behind the host left out, characters encoded where
  they have to be;
* the segments of the path as `Courier.Url.Segments` has them;
* a special scheme has a host, reads a backslash as a slash, and has a path of one slash at least.
-/

namespace Courier.Url

/-! ## 1. Pieces of the text -/

/-- The text without controls and blanks at its ends. -/
def trimmed (s : List Char) : List Char :=
  let outer (c : Char) : Bool := c.toNat ≤ 0x20
  ((s.dropWhile outer).reverse.dropWhile outer).reverse

/-- The part before a character and, if the character is there, the part behind it. -/
def cut (c : Char) : List Char → List Char × Option (List Char)
  | [] => ([], none)
  | d :: rest =>
    if d = c then ([], some rest)
    else
      let later := cut c rest
      (d :: later.1, later.2)

/-- The scheme in front of a colon, in lower case, and what follows it. Breaks within the scheme do
    not count; those behind it stay. -/
def scheme? (s : List Char) : Option (String × List Char) :=
  let isPart (c : Char) : Bool :=
    c.isAlphanum || c == '+' || c == '-' || c == '.' || isBreak c
  match s.dropWhile isPart with
  | ':' :: rest =>
    let name := withoutBreaks (s.takeWhile isPart)
    if name.head?.any Char.isAlpha then some (String.ofList (name.map Char.toLower), rest) else none
  | _ => none

/-! ## 2. Authorities -/

/-- The text behind the last `@`, and the text in front of it. -/
def userinfo (s : List Char) : Option (List Char) × List Char :=
  if s.contains '@' then
    let back := s.reverse.takeWhile (· != '@')
    (some (s.take (s.length - back.length - 1)), back.reverse)
  else (none, s)

/-- The host of an authority and what follows it. -/
def hostPart (s : List Char) : List Char × Option (List Char) :=
  match s with
  | '[' :: _ =>
    let inside := s.takeWhile (· != ']')
    let behind := s.drop (inside.length + 1)
    let close := if inside.length < s.length then [']'] else []
    let colon := cut ':' behind
    (inside ++ close ++ colon.1, colon.2)
  | s => cut ':' s

/-- The number behind a host that digits denote; `some none` is the usual one of the scheme, or none
    given. -/
def portNumber? (scheme : String) (digits : List Char) : Option (Option Nat) :=
  match digits with
  | [] => some none
  | digits =>
    match Hex.numeral? 10 digits with
    | some n =>
      if n < 65536 then some (if usualPort? scheme = some n then none else some n) else none
    | none => none

/-- Divides a text into authority and path. -/
def splitAuthority (special : Bool) (s : List Char) : List Char × List Char :=
  (s.takeWhile fun c => !isSlash special c, s.dropWhile fun c => !isSlash special c)

/-- The number behind a host and the start of a path that may follow it: a backslash ends the number
    in any case. -/
def splitNumber (s : Option (List Char)) : List Char × List Char :=
  splitAuthority true (s.getD [])

/-- A URL from what follows the slashes in front of its authority. A name or a number without a host
    is refused, and so is the sign of a name with nothing but a path behind it. -/
def ofAuthority? (scheme : String) (s : List Char) (query fragment : Option String) :
    Option Url := do
  let special := isSpecial scheme
  let (authority, path) := splitAuthority special s
  let (info, address) := userinfo authority
  let (name, number) := hostPart address
  let (digits, start) := splitNumber number
  let encode (s : List Char) : String := String.ofList (percentEncode userinfoSet s)
  let (username, password) := cut ':' (info.getD [])
  let username := encode username
  let password := (password.filter (!·.isEmpty)).map encode
  let isLast := path.isEmpty && query.isNone && fragment.isNone
  let unnamed := username = "" ∧ password = none
  if name.isEmpty ∧ (special ∨ number.isSome ∨ ¬ unnamed) then none
  else if info = some [] ∧ address.isEmpty ∧ ¬ isLast then none
  else
    let host ← if name.isEmpty then some "" else host? special name
    let portNumber ← portNumber? scheme digits
    some
      { scheme, username, password, portNumber, query, fragment
        host := some host
        path := pathAfterHost special (start ++ path) }

/-! ## 3. URLs -/

/-- A text without the slashes at its head. -/
def dropSlashes (s : List Char) : List Char := s.dropWhile (isSlash true)

/-- A URL of the scheme of files with a host and the parts of a path. -/
def ofFile (host : String) (parts : List (List Char)) (query fragment : Option String) : Url :=
  let p := FilePath.addAll {} parts
  { scheme := "file", query, fragment
    host := some (if p.onDrive then "" else host)
    path := p.path }

/-- A URL of the scheme of files, its breaks included: it may have a host, and has a path. The own
    host is left out. -/
def ofFile? (s : List Char) (query fragment : Option String) : Option Url :=
  let isBlank (part : List Char) : Bool := part.all isBreak
  match Text.split (isSlash true) s with
  | a :: b :: rest =>
    match rest with
    | first :: rest' =>
      if isBlank a ∧ isBlank b then
        let name := withoutBreaks first
        if name.isEmpty ∨ isDrive name then some (ofFile "" rest query fragment)
        else
          match host? true name with
          | none => none
          | some "localhost" => some (ofFile "" ([] :: rest') query fragment)
          | some host =>
            some (ofFile host (if rest'.isEmpty then [[]] else rest') query fragment)
      else some (ofFile "" (if isBlank a then b :: rest else a :: b :: rest) query fragment)
    | [] => some (ofFile "" (if isBlank a then [b] else [a, b]) query fragment)
  | parts => some (ofFile "" parts query fragment)

/-- A URL that names its scheme; what follows the scheme may hold breaks. -/
def ofScheme? (scheme : String) (s : List Char) (query fragment : Option String) : Option Url :=
  let plain := withoutBreaks s
  if scheme = "file" then ofFile? s query fragment
  else if isSpecial scheme then ofAuthority? scheme (dropSlashes plain) query fragment
  else
    match plain with
    | '/' :: '/' :: rest => ofAuthority? scheme rest query fragment
    | '/' :: rest => some { scheme, query, fragment, path := .segments (segments false [] rest) }
    | s =>
      some { scheme, query, fragment, path := .plain (String.ofList (percentEncode controlSet s)) }

/-- The segments of a path without the last one. -/
def Path.parent : Path → List String
  | .segments parts => parts.dropLast
  | .plain _ => []

/-- A URL that takes its scheme, and what else it leaves out, from a base. -/
def ofRelative? (base : Url) (s : List Char) (query fragment : Option String) : Option Url :=
  let special := isSpecial base.scheme
  match s with
  | [] => some { base with query := query <|> base.query, fragment }
  | a :: rest =>
    if isSlash special a then
      match rest with
      | b :: rest' =>
        if isSlash special b then
          let rest' := if a = '/' ∧ b = '/' then rest' else dropSlashes rest'
          ofAuthority? base.scheme rest' query fragment
        else some { base with query, fragment, path := .segments (segments special [] rest) }
      | [] => some { base with query, fragment, path := .segments [""] }
    else
      let path := .segments (segments special base.path.parent (a :: rest))
      some { base with query, fragment, path }

/-- The URL that a text denotes, alone or against a base. -/
def read? (base : Option Url) (text : String) : Option Url :=
  let (front, fragment) := cut '#' (trimmed text.toList)
  let (front, query) := cut '?' front
  let encode (set : EncodeSet) (s : List Char) : String :=
    String.ofList (percentEncode set (withoutBreaks s))
  let fragment := fragment.map (encode fragmentSet)
  let encodeQuery (scheme : String) : Option String :=
    query.map (encode (if isSpecial scheme then specialQuerySet else querySet))
  match scheme? front, base with
  | some (scheme, rest), some base =>
    let plain := withoutBreaks rest
    if scheme = base.scheme ∧ isSpecial scheme ∧ ¬ (plain.take 2).all (isSlash true) then
      ofRelative? base plain (encodeQuery scheme) fragment
    else ofScheme? scheme rest (encodeQuery scheme) fragment
  | some (scheme, rest), none => ofScheme? scheme rest (encodeQuery scheme) fragment
  | none, some base => ofRelative? base (withoutBreaks front) (encodeQuery base.scheme) fragment
  | none, none => none

end Courier.Url
