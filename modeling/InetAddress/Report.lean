import InetAddress.Error.Message
import InetAddress.Network
import InetAddress.Text.Printable
import InetAddress.V6.Class
import InetAddress.V6.Interface
import InetAddress.V6.Multicast
import InetAddress.V6.Transition

/-!
# The report on an address

The first argument is a MAC address, which stands for its link-local address, or an IPv6 address;
the others are networks. The report has a line for each property of the address and one for each
network that could be read and is IPv6. Without arguments there is a reminder of the usage, and
without an address an error.

Lines are printed as they come. A fault cuts the report short after the lines before it, and the
code tells whether it was an error or a question that should not have been asked.
-/

namespace InetAddress.Report

/-- What the program leaves behind. -/
structure Outcome where
  code : Nat
  stdout : String
  stderr : String
deriving DecidableEq

/-- Lines, each with its end. -/
def unlines : List String → String
  | [] => ""
  | line :: lines => line ++ "\n" ++ unlines lines

/-- A verdict in words. -/
def verdict (yes : Bool) : String :=
  if yes then "true" else "false"

/-! ## Errors -/

/-- The escape rule of error lines. Hidden characters are given by their code points. -/
def escape (c : Char) : List Char :=
  if c = '"' ∨ c = '\\' then Quoted.backslash c
  else if c = '\x00' then Quoted.backslash '0'
  else if c = '\t' then Quoted.backslash 't'
  else if c = '\n' then Quoted.backslash 'n'
  else if c = '\r' then Quoted.backslash 'r'
  else if Printable.isHidden c then
    Quoted.backslash 'u' ++ '\x7b' :: Hex.write c.toNat ++ ['\x7d']
  else [c]

/-- A text as an error line quotes it. -/
def quote (text : String) : String :=
  String.ofList (Quoted.write escape text.toList)

/-- An error as an error line gives it: the kind and what it is about. -/
def showError (e : Error) : String :=
  match e with
  | .tooLong length limit => s!"InvalidPrefixLength \x7b len: {length}, max: {limit} \x7d"
  | .noSuchIndex index bound => s!"IndexOutOfRange \x7b index: {index}, len: {bound} \x7d"
  | .notMapped _ | .notSixToFour _ => "TypeMismatch(" ++ quote e.detail ++ ")"
  | _ => "AddressFormat(" ++ quote e.detail ++ ")"

/-- Ends with a fault, after what was printed: with a complaint where the question should not have
been asked, else with an error line. -/
def fail (printed : String) (e : Error) : Outcome :=
  match e.kind with
  | .precondition => ⟨101, printed, e.detail ++ "\n"⟩
  | _ => ⟨1, printed, "Error: " ++ showError e ++ "\n"⟩

/-! ## Lines -/

/-- A line for the multicast fields, or for the solicited-node address. -/
def reachLine (a : V6) : Except Error String :=
  if a.isMulticast then do
    let flags ← a.multicastFlags
    let scope ← a.multicastScope
    return "multicast:   flags 0x" ++ String.ofList (Hex.write flags.toNat) ++
      ", scope 0x" ++ String.ofList (Hex.write scope.toNat)
  else
    a.solicitedNode.map fun node => "solicited:   " ++ node.text

/-- A line for the transition. -/
def transitionLine (a : V6) : Except Error String :=
  match a.transition with
  | .teredo => .ok "type:        teredo"
  | .sixToFour => a.sixToFourV4.map fun v4 => "type:        6to4 via " ++ v4.text
  | .none => .ok "type:        normal"

/-- A line for the IPv4 address of a mapped address. -/
def carriedLines (a : V6) : List (Except Error String) :=
  if a.isMapped then [a.toV4.map fun v4 => "ipv4:        " ++ v4.text] else []

/-- The lines that depend on the address alone. -/
def header (a : V6) : List (Except Error String) :=
  [a.canonicalText.map ("canonical:   " ++ ·),
    .ok ("full:        " ++ a.fullText),
    (Address.v6 a).toJson.map ("json:        " ++ ·),
    .ok ("loopback:    " ++ verdict a.isLoopback),
    .ok ("private:     " ++ verdict a.isPrivate),
    .ok ("link-local:  " ++ verdict a.isLinkLocal),
    a.askRoutable.map fun yes => "routable:    " ++ verdict yes,
    reachLine a,
    transitionLine a] ++ carriedLines a

/-- A line for a network, if it could be read and is IPv6. -/
def memberLine? (a : V6) (cidr : String) : Option String :=
  match a.inNetwork cidr with
  | .ok yes => some ("in " ++ cidr ++ ": " ++ verdict yes)
  | .error _ => none

/-- The lines before the first fault, and the fault if there is one. -/
def printed : List (Except Error String) → List String × Option Error
  | [] => ([], none)
  | .ok line :: lines => (line :: (printed lines).1, (printed lines).2)
  | .error e :: _ => ([], some e)

/-! ## The whole report -/

/-- The address that the first argument stands for. -/
def subject (text : String) : Except Error V6 :=
  match Mac.ofText? text with
  | some mac => .ok (V6.ofMac mac)
  | none => V6.parse text

/-- What the program leaves behind for its arguments, called by the name `program`. -/
def run (args : List String) (program : String := "ipv6") : Outcome :=
  match args with
  | [] => ⟨2, "", "usage: " ++ program ++ " <address|mac> [cidr...]\n"⟩
  | text :: cidrs =>
      match subject text with
      | .error e => fail "" e
      | .ok a =>
          match printed (header a) with
          | (lines, some e) => fail (unlines lines) e
          | (lines, none) => ⟨0, unlines (lines ++ cidrs.filterMap (memberLine? a)), ""⟩

end InetAddress.Report
