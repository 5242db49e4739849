import Hexwire.Bytes.Hex
import Hexwire.Bytes.Utf8

/-! # Addresses

An address names a document, and behind a number sign a place in it. It has up to six parts: scheme,
authority, path, parameters, query and fragment. A relative address is completed from a base: it
takes over what it does not say itself, and its path continues the path of the base, where a step of
two dots goes up. Schemes without a hierarchy complete nothing.
-/

namespace Hexwire.Schema

/-- An address by its parts; a part that is missing is empty. -/
structure Address where
  scheme : List Char
  authority : List Char
  path : List Char
  parameters : List Char
  query : List Char
  fragment : List Char
  deriving DecidableEq, Repr

namespace Address

/-- The schemes whose addresses complete relative ones. -/
def hierarchicalSchemes : List String :=
  ["", "ftp", "http", "gopher", "nntp", "imap", "wais", "file", "https", "shttp", "mms", "prospero",
   "rtsp", "rtsps", "rtspu", "sftp", "svn", "svn+ssh", "ws", "wss"]

/-- The schemes whose addresses have an authority. -/
def authoritySchemes : List String :=
  ["", "ftp", "http", "gopher", "nntp", "telnet", "imap", "wais", "file", "mms", "https", "shttp",
   "snews", "prospero", "rtsp", "rtsps", "rtspu", "rsync", "svn", "svn+ssh", "sftp", "nfs", "git",
   "git+ssh", "ws", "wss"]

/-- The schemes whose paths have parameters. -/
def parameterSchemes : List String :=
  ["", "ftp", "hdl", "prospero", "http", "imap", "https", "shttp", "rtsp", "rtsps", "rtspu", "sip",
   "sips", "mms", "sftp", "tel"]

/-- Whether a scheme is one of a list. -/
def isAmong (schemes : List String) (scheme : List Char) : Bool :=
  schemes.contains (String.ofList scheme)

/-- Text before the first occurrence of a character, and what comes after it if it occurs. -/
def cut (mark : Char) (text : List Char) : List Char × Option (List Char) :=
  match text.dropWhile (· ≠ mark) with
  | [] => (text, none)
  | _ :: rest => (text.takeWhile (· ≠ mark), some rest)

/-- Whether a character may stand in a scheme. -/
def isSchemeChar (c : Char) : Bool := c.isAlphanum || c = '+' || c = '-' || c = '.'

/-- The scheme of an address and what comes after it; the standard holds where none is given. -/
def cutScheme (standard text : List Char) : List Char × List Char :=
  match cut ':' text, text.head? with
  | (scheme, some rest), some first =>
    if first.isAlpha && scheme.all isSchemeChar then (scheme.map Char.toLower, rest)
    else (standard, text)
  | _, _ => (standard, text)

/-- The authority of an address after its scheme, and what comes after it. -/
def cutAuthority (text : List Char) : List Char × List Char :=
  match text with
  | '/' :: '/' :: rest =>
    let inside (c : Char) : Bool := c ≠ '/' && c ≠ '?' && c ≠ '#'
    (rest.takeWhile inside, rest.dropWhile inside)
  | _ => ([], text)

/-- The parameters after the last segment of a path. -/
def cutParameters (path : List Char) : List Char × List Char :=
  let last := (path.reverse.takeWhile (· ≠ '/')).reverse
  match cut ';' last with
  | (name, some parameters) => (path.take (path.length - last.length) ++ name, parameters)
  | _ => (path, [])

/-- Text without what must not stand in an address: control characters and spaces at the start, and
tabs and line ends anywhere. -/
def clean (text : List Char) : List Char :=
  (text.dropWhile (· ≤ ' ')).filter fun c => c ≠ '\t' && c ≠ '\n' && c ≠ '\r'

/-- The parts of an address, unless its authority has only one of two brackets. The scheme is the
standard one where none is given, and parameters are left in the path. -/
def scan? (standard : List Char) (text : List Char) : Option Address :=
  let (scheme, rest) := cutScheme standard (clean text)
  let (authority, rest) := cutAuthority rest
  let (rest, fragment) := cut '#' rest
  let (path, query) := cut '?' rest
  if authority.contains '[' != authority.contains ']' then none
  else some ⟨scheme, authority, path, [], query.getD [], fragment.getD []⟩

/-- The parts of an address, the parameters of its path apart. -/
def parse? (standard : List Char) (text : List Char) : Option Address := do
  let address ← scan? standard text
  if isAmong parameterSchemes address.scheme then
    let (path, parameters) := cutParameters address.path
    some { address with path := path, parameters := parameters }
  else some address

/-- An address as it is written. -/
def render (address : Address) : List Char :=
  let path :=
    address.path ++ (if address.parameters.isEmpty then [] else ';' :: address.parameters)
  let doubled := path.take 2 = ['/', '/']
  let named := !address.scheme.isEmpty && isAmong authoritySchemes address.scheme
  let place :=
    if !address.authority.isEmpty || named || doubled then
      let rooted := if path.isEmpty || path.head? = some '/' then path else '/' :: path
      '/' :: '/' :: address.authority ++ rooted
    else path
  (if address.scheme.isEmpty then [] else address.scheme ++ [':']) ++ place ++
    (if address.query.isEmpty then [] else '?' :: address.query) ++
    (if address.fragment.isEmpty then [] else '#' :: address.fragment)

/-- The segments between the slashes of a path. -/
def segments (path : List Char) : List (List Char) :=
  path.foldr (fun c found => match found with
    | segment :: rest => if c = '/' then [] :: segment :: rest else (c :: segment) :: rest
    | [] => [[c]]) [[]]

/-- The segments of a path after its steps within and upwards are taken; those before, last first,
are given. -/
def settled : List (List Char) → List (List Char) → List (List Char)
  | done, [] => done.reverse
  | done, segment :: rest =>
    if segment = ['.', '.'] then settled done.tail rest
    else if segment = ['.'] then settled done rest
    else settled (segment :: done) rest

/-- Segments without the empty ones between the first and the last. -/
def withoutEmpty (found : List (List Char)) : List (List Char) :=
  match found with
  | first :: second :: rest =>
    let inner := (second :: rest).dropLast.filter fun segment => !segment.isEmpty
    first :: inner ++ (second :: rest).getLast?.toList
  | short => short

/-- A path that continues another. -/
def continuePath (base path : List Char) : List Char :=
  let own := segments path
  let all :=
    if path.head? = some '/' then own
    else
      let before := segments base
      let before := if before.getLast? = some [] then before else before.dropLast
      withoutEmpty (before ++ own)
  let last := all.getLast?
  let ends := if last = some ['.'] || last = some ['.', '.'] then [[]] else []
  let joined := (settled [] all ++ ends).intersperse ['/'] |>.flatten
  if joined.isEmpty then ['/'] else joined

/-- The text of an address completed from a base. -/
def complete? (base text : List Char) : Option (List Char) := do
  if base.isEmpty then some text
  else if text.isEmpty then some base
  else
    let origin ← parse? [] base
    let target ← parse? origin.scheme text
    if target.scheme ≠ origin.scheme || !isAmong hierarchicalSchemes target.scheme then some text
    else if isAmong authoritySchemes target.scheme && !target.authority.isEmpty then
      some target.render
    else
      let authority :=
        if isAmong authoritySchemes target.scheme then origin.authority else target.authority
      if target.path.isEmpty && target.parameters.isEmpty then
        let query := if target.query.isEmpty then origin.query else target.query
        some (render ⟨target.scheme, authority, origin.path, origin.parameters, query,
          target.fragment⟩)
      else
        some (render ⟨target.scheme, authority, continuePath origin.path target.path,
          target.parameters, target.query, target.fragment⟩)

/-- An address as it is written when it is taken apart and put together again. -/
def normal? (text : List Char) : Option (List Char) := (scan? [] text).map render

/-- The document that an address names and the fragment behind it. -/
def split? (text : List Char) : Option (List Char × List Char) :=
  if text.contains '#' then
    (parse? [] text).map fun address => (render { address with fragment := [] }, address.fragment)
  else some (text, [])

/-- The octets that percent signs with two digits stand for, among the octets of the other
characters. -/
def octetsOf : List Char → Bytes
  | '%' :: high :: low :: rest =>
    match Hex.digitValue? high, Hex.digitValue? low with
    | some h, some l => UInt8.ofNat (16 * h + l) :: octetsOf rest
    | _, _ => Utf8.encode "%" ++ octetsOf (high :: low :: rest)
  | c :: rest => Utf8.encode c.toString ++ octetsOf rest
  | [] => []

/-- The characters that octets encode, with a mark for each run of octets that encodes none; the
count bounds the runs. -/
def lenient : Nat → Bytes → List Char
  | 0, _ => []
  | count + 1, data => match Utf8.decode data with
    | .ok text => text
    | .error fault =>
      ((Utf8.decode (data.take fault.first)).toOption.getD []) ++
        '\uFFFD' :: lenient count (data.drop (max fault.stop (fault.first + 1)))

/-- Text with the characters that percent signs with digits stand for. -/
def plain (text : List Char) : List Char :=
  if text.contains '%' then
    let data := octetsOf text
    lenient (data.length + 1) data
  else text

end Address

end Hexwire.Schema
