import Storyboard.Web.Punycode
import Storyboard.Web.DomainMap
import Storyboard.Text.Canonical

/-!
# Hosts of web addresses

A host of an address with a known scheme is a domain, an IPv4 address or a bracketed
IPv6 address. Reading one: percent escapes are decoded, the text is mapped and
checked, and labels that are not ASCII are written in Punycode; a domain whose
last label is a number is read as an IPv4 address in the forgiving notation (dotted or
not, decimal, octal with a leading zero, or hexadecimal with `0x`). The text of a host is
its canonical form: a lower-case domain, four decimal bytes, or eight hexadecimal groups
with the longest run of zero groups written `::`.

A domain is mapped character by character (`DomainMap`), brought to composed canonical
form, and checked label by label: a label must be in that form, must not begin with a
mark, and must hold only characters the mapping keeps; a label written in Punycode must
decode to such a label beyond ASCII. Joiners must stand after a virama or, for the
non-joiner, between characters that join towards it; and when any label holds
right-to-left text, every label must keep to one direction.
-/

namespace Storyboard

namespace Host

/-! ## IPv4 -/

/-- The value of a number in the forgiving notation: `none` when it is not one,
`some none` when it is one too large for 32 bits. A lone `0x` is zero. -/
def ipv4Number? (cs : List Char) : Option (Option Nat) :=
  if cs.isEmpty then none else
  let (radix, body) := match cs with
    | '0' :: 'x' :: rest => (16, rest)
    | '0' :: 'X' :: rest => (16, rest)
    | '0' :: rest@(_ :: _) => (8, rest)
    | _ => (10, cs)
  let value? := body.foldl (fun acc c => acc.bind fun v =>
    let d? : Option Nat :=
      if '0' ≤ c && c ≤ '9' then some (c.toNat - 0x30)
      else if 'a' ≤ c && c ≤ 'f' then some (c.toNat - 0x57)
      else if 'A' ≤ c && c ≤ 'F' then some (c.toNat - 0x37)
      else none
    d?.bind fun d => if d < radix then some (v * radix + d) else none) (some 0)
  value?.map fun v => if v < Nat.pow 2 32 then some v else none

/-- The dot-separated parts of a domain, without the empty part after a final dot. -/
def ipv4Parts (domain : List Char) : List (List Char) :=
  let parts := domain.splitOn '.'
  if parts.length > 1 && parts.getLast? == some [] then parts.dropLast else parts

/-- Whether a domain ends in a number, so that it must be read as an IPv4 address. -/
def endsInNumber (domain : List Char) : Bool :=
  match (ipv4Parts domain).getLast? with
  | some last =>
    (!last.isEmpty && last.all fun c => '0' ≤ c && c ≤ '9') || (ipv4Number? last).isSome
  | none => false

/-- The 32-bit value of an IPv4 address of one to four numbers; every number but the
last is one byte, the last fills the bytes left. -/
def ipv4? (domain : List Char) : Option Nat := do
  let parts := ipv4Parts domain
  if parts.length > 4 then none
  let numbers ← parts.mapM fun p => (ipv4Number? p).join
  let (init, last) ← match numbers.reverse with
    | last :: init => some (init.reverse, last)
    | [] => none
  if last ≥ Nat.pow 256 (4 - init.length) then none
  if init.any (· > 255) then none
  some (init.zipIdx.foldl (fun acc (n, i) => acc + n * Nat.pow 256 (3 - i)) last)

/-- The dotted text of an IPv4 address. -/
def ipv4Text (v : Nat) : String :=
  ".".intercalate ([24, 16, 8, 0].map fun k => toString (v / Nat.pow 2 k % 256))

/-! ## IPv6 -/

/-- The value of a hexadecimal digit. -/
def hexValue? (c : Char) : Option Nat :=
  if '0' ≤ c && c ≤ '9' then some (c.toNat - 0x30)
  else if 'a' ≤ c && c ≤ 'f' then some (c.toNat - 0x57)
  else if 'A' ≤ c && c ≤ 'F' then some (c.toNat - 0x37)
  else none

/-- Up to four hexadecimal digits: their value, their count and the rest. -/
def hexGroup (cs : List Char) : Nat × Nat × List Char :=
  let ds := (cs.take 4).takeWhile fun c => (hexValue? c).isSome
  (ds.foldl (fun v c => v * 16 + (hexValue? c).getD 0) 0, ds.length, cs.drop ds.length)

/-- A decimal byte without leading zeros, and the rest. -/
def decimalByte? (cs : List Char) : Option (Nat × List Char) :=
  let ds := cs.takeWhile fun c => '0' ≤ c && c ≤ '9'
  if ds.isEmpty then none
  else if ds.length > 1 && ds.head? == some '0' then none
  else
    let v := ds.foldl (fun v c => v * 10 + (c.toNat - 0x30)) 0
    if v > 255 then none else some (v, cs.drop ds.length)

/-- The four bytes of a dotted IPv4 tail, as two groups. -/
def ipv4Tail? (cs : List Char) : Option (List Nat) := do
  let (a, cs) ← decimalByte? cs
  let cs ← match cs with | '.' :: r => some r | _ => none
  let (b, cs) ← decimalByte? cs
  let cs ← match cs with | '.' :: r => some r | _ => none
  let (c, cs) ← decimalByte? cs
  let cs ← match cs with | '.' :: r => some r | _ => none
  let (d, cs) ← decimalByte? cs
  if cs.isEmpty then some [a * 256 + b, c * 256 + d] else none

/-- Reading a group never lengthens the text. -/
theorem length_hexGroup_le (cs : List Char) : (hexGroup cs).2.2.length ≤ cs.length := by
  simp [hexGroup]

/-- Read the groups of an IPv6 address: those before the compressed run (`::`), and
whether and where the run was, or `none` for text that is no address. -/
def ipv6Groups (groups : List Nat) (gap : Option Nat) (cs : List Char) :
    Option (List Nat × Option Nat) :=
  match cs with
  | [] => some (groups, gap)
  | c :: rest =>
    if groups.length == 8 then none
    else if c == ':' then
      if gap.isSome then none else ipv6Groups groups (some groups.length) rest
    else
      match h : (hexGroup (c :: rest)).2.2 with
      | '.' :: _ =>
        if (hexGroup (c :: rest)).2.1 == 0 || groups.length > 6 then none
        else (ipv4Tail? (c :: rest)).map fun ws => (groups ++ ws, gap)
      | ':' :: after =>
        if (hexGroup (c :: rest)).2.1 == 0 || after.isEmpty then none
        else ipv6Groups (groups ++ [(hexGroup (c :: rest)).1]) gap after
      | [] => if (hexGroup (c :: rest)).2.1 == 0 then none else
        some (groups ++ [(hexGroup (c :: rest)).1], gap)
      | _ => none
termination_by cs.length
decreasing_by
  · simp
  · have := length_hexGroup_le (c :: rest)
    rw [h] at this
    simp only [List.length_cons] at this ⊢
    omega

/-- The eight groups of an IPv6 address, from the text between its brackets. -/
def ipv6? (cs : List Char) : Option (List Nat) := do
  let (start, rest) ← match cs with
    | ':' :: ':' :: rest => some (some 0, rest)
    | ':' :: _ => none
    | _ => some (none, cs)
  let (groups, gap) ← ipv6Groups [] start rest
  match gap with
  | some g =>
    if groups.length > 8 then none
    else some (groups.take g ++ List.replicate (8 - groups.length) 0 ++ groups.drop g)
  | none => if groups.length == 8 then some groups else none

/-- The first longest run of at least two zero groups: its start and length. -/
def zeroRun (groups : List Nat) : Option (Nat × Nat) :=
  let runs := (List.range groups.length).filterMap fun i =>
    if groups[i]? == some 0 && (i == 0 || groups[i - 1]? != some 0) then
      some (i, ((groups.drop i).takeWhile (· == 0)).length)
    else none
  match runs.foldl (fun best r => if r.2 > best.2 then r else best) (0, 0) with
  | (s, n) => if n ≥ 2 then some (s, n) else none

/-- The hexadecimal text of a group, without leading zeros. -/
def groupText (v : Nat) : String := String.ofList (Nat.toDigits 16 v)

/-- The canonical text of an IPv6 address, without brackets. -/
def ipv6Text (groups : List Nat) : String :=
  match zeroRun groups with
  | some (s, n) =>
    ":".intercalate ((groups.take s).map groupText) ++ "::"
      ++ ":".intercalate ((groups.drop (s + n)).map groupText)
  | none => ":".intercalate (groups.map groupText)

/-! ## Domains -/

/-- The mapping of a character in a domain: `none` for one that no domain may hold, the
empty list for one that is dropped, else what it becomes. -/
def mapChar (c : Char) : Option (List Char) :=
  match DomainMap.treatment c with
  | .keep => some [c]
  | .drop => some []
  | .refuse => none
  | .replace cps => some (cps.map Char.ofNat)

/-- Code points that no domain may hold once mapped: controls, space, delete, and
`% # / : < > ? @ [ \ ] ^ |`. -/
def isForbidden (c : Char) : Bool :=
  c.toNat ≤ 0x20 || c.toNat == 0x7F || "%#/:<>?@[\\]^|".toList.contains c

/-- Whether a label, as Unicode text, may stand in a domain: it is in composed canonical
form, begins neither with `xn--` nor with a mark, and holds only characters that the
mapping keeps. -/
def validLabel (label : List Char) : Bool :=
  Text.compose label == label
    && label.take 4 != ['x', 'n', '-', '-']
    && (label.head?.all fun c => !DomainMap.isMark c)
    && label.all fun c => mapChar c == some [c]

/-- Whether text after a zero width non-joiner reaches, past transparent characters, one
that joins on the right. -/
def joinsAfter (after : List Char) : Bool :=
  (after.dropWhile (DomainMap.joiningType · == .transparent)).head?.any fun c =>
    DomainMap.joiningType c == .right || DomainMap.joiningType c == .dual

/-- Whether text before a zero width non-joiner (nearest character first) reaches, past
transparent characters, one that joins on the left. -/
def joinsBefore (before : List Char) : Bool :=
  (before.dropWhile (DomainMap.joiningType · == .transparent)).head?.any fun c =>
    DomainMap.joiningType c == .left || DomainMap.joiningType c == .dual

/-- Whether every joiner in `rest` stands where one may, `before` holding the text before
it nearest first: right after a virama, or, for the zero width non-joiner, between a
character joining on the left and one joining on the right with only transparent ones
between. -/
def joinersAllowed (before : List Char) : List Char → Bool
  | [] => true
  | c :: after =>
    let afterVirama := before.head?.any fun b => Text.combiningClass b == 9
    let ok :=
      if c = '\u200D' then afterVirama
      else if c = '\u200C' then afterVirama || (joinsBefore before && joinsAfter after)
      else true
    ok && joinersAllowed (c :: before) after

/-- The classes a right-to-left label may hold. -/
def rightToLeftAllowed : DomainMap.BidiClass → Bool
  | .leftToRight | .other => false
  | _ => true

/-- The classes a left-to-right label may hold. -/
def leftToRightAllowed : DomainMap.BidiClass → Bool
  | .rightToLeft | .arabicLetter | .arabicNumber | .other => false
  | _ => true

/-- Whether a label meets the direction rules of a domain that holds right-to-left text:
it begins with a letter of either direction; a right-to-left label holds no
left-to-right letter, ends (marks aside) with a right-to-left letter or a number, and
does not hold both European and Arabic numbers; a left-to-right label holds no
right-to-left letter or Arabic number and ends (marks aside) with a left-to-right letter
or a European number. -/
def directionOk (label : List Char) : Bool :=
  let classes := label.map DomainMap.bidiClass
  let last := (classes.reverse.dropWhile (· == .nonspacingMark)).head?
  match classes with
  | [] => true
  | first :: _ =>
    if first == .rightToLeft || first == .arabicLetter then
      classes.all rightToLeftAllowed
        && (last.any fun k => k == .rightToLeft || k == .arabicLetter
          || k == .europeanNumber || k == .arabicNumber)
        && !(classes.contains .europeanNumber && classes.contains .arabicNumber)
    else if first == .leftToRight then
      classes.all leftToRightAllowed
        && (last.any fun k => k == .leftToRight || k == .europeanNumber)
    else false

/-- Whether a character makes its domain one that holds right-to-left text. -/
def isRightToLeft (c : Char) : Bool :=
  let k := DomainMap.bidiClass c
  k == .rightToLeft || k == .arabicLetter || k == .arabicNumber

/-- A mapped label as Unicode text: a Punycode label (`xn--`) decoded, which must be ASCII
and decode to text beyond ASCII; another label as it is. -/
def decodeLabel? (label : List Char) : Option (List Char) :=
  if label.take 4 == ['x', 'n', '-', '-'] then
    if label.all (·.toNat < 0x80) then
      match Punycode.decode? (label.drop 4) with
      | some decoded => if decoded.any (0x80 ≤ ·.toNat) then some decoded else none
      | none => none
    else none
  else some label

/-- The ASCII form of a mapped label: as it is when ASCII, else in Punycode. -/
def labelAscii (label : List Char) : List Char :=
  if label.all (·.toNat < 0x80) then label else ['x', 'n', '-', '-'] ++ Punycode.encode label

/-- The ASCII form of a domain: each character mapped, the whole brought to composed
canonical form, and each label read as Unicode and checked (`validLabel`, the joiner
rules, and the direction rules when some label holds right-to-left text); `none` when a
character is refused, a label fails, or the result is empty or holds a code point no
domain may hold. -/
def domainToAscii? (domain : List Char) : Option (List Char) := do
  let mapped ← domain.mapM mapChar
  let labels := (Text.compose mapped.flatten).splitOn '.'
  let decoded ← labels.mapM decodeLabel?
  let rightToLeft := decoded.any fun l => l.any isRightToLeft
  if decoded.all fun l => validLabel l && joinersAllowed [] l && (!rightToLeft || directionOk l)
  then
    let ascii := ['.'].intercalate (labels.map labelAscii)
    if ascii.isEmpty || ascii.any isForbidden then none else some ascii
  else none

/-- Decode percent escapes into bytes; a `%` without two hexadecimal digits stays. -/
def percentDecode : List Char → List UInt8
  | '%' :: a :: b :: rest =>
    match hexValue? a, hexValue? b with
    | some x, some y => (x * 16 + y).toUInt8 :: percentDecode rest
    | _, _ => '%'.toNat.toUInt8 :: percentDecode (a :: b :: rest)
  | c :: rest => (String.singleton c).toUTF8.toList ++ percentDecode rest
  | [] => []

/-- The canonical text of the host of an address with a known scheme, or `none` when
the text is no host. -/
def parse? (text : List Char) : Option String :=
  match text with
  | '[' :: inner =>
    if inner.getLast? == some ']' then
      (ipv6? inner.dropLast).map fun g => "[" ++ ipv6Text g ++ "]"
    else none
  | _ => do
    let decoded ← String.fromUTF8? (ByteArray.mk (percentDecode text).toArray)
    let ascii ← domainToAscii? decoded.toList
    if endsInNumber ascii then (ipv4? ascii).map ipv4Text else some (String.ofList ascii)

/-- Code points an opaque host may not hold. -/
def isForbiddenOpaque (c : Char) : Bool :=
  "\x00\t\n\r #/:<>?@[\\]^|".toList.contains c

/-- The UTF-8 percent escapes of a code point. -/
def percentEncode (c : Char) : String :=
  String.join ((String.singleton c).toUTF8.toList.map fun b =>
    "%" ++ String.ofList [(Nat.toDigits 16 (b.toNat / 16)).head!.toUpper,
      (Nat.toDigits 16 (b.toNat % 16)).head!.toUpper])

/-- The host of an address with a scheme of its own: kept as written, with controls and
code points beyond ASCII percent-escaped, or `none` when it holds a forbidden code point. -/
def parseOpaque? (text : List Char) : Option String :=
  match text with
  | '[' :: inner =>
    if inner.getLast? == some ']' then
      (ipv6? inner.dropLast).map fun g => "[" ++ ipv6Text g ++ "]"
    else none
  | _ =>
    if text.any isForbiddenOpaque then none
    else some (String.join (text.map fun c =>
      if c.toNat < 0x20 || c.toNat > 0x7E then percentEncode c else String.singleton c))

end Host

end Storyboard
