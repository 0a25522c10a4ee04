import ServiceTunnel.Text.Blank
import ServiceTunnel.Text.Lowercase
import ServiceTunnel.Digest.Sha256
import ServiceTunnel.Kube.Service

/-!
# ServiceTunnel.Name

**Names of everything that belongs to a Service.** A name is made of the lower-case letters and
digits of ASCII and of single dashes inside, and has at most 63 characters. A longer one is cut and
closed with the first digits of a digest of the whole, so that two long names with a common
beginning stay apart.
-/

namespace ServiceTunnel.Name

/-- The greatest length of a name. -/
def maxLength : Nat := 63

/-- The number of digits of the digest at the end of a name that was cut. -/
def digestLength : Nat := 8

/-- Whether a character stands in a name as it is. -/
def isPlain (c : Char) : Bool := ('a' ≤ c && c ≤ 'z') || c.isDigit

/-- Writes one dash for every run of characters that are not plain; `inRun` says that the dash of a
run has been written. -/
def collapse (inRun : Bool) : List Char → List Char
  | [] => []
  | c :: rest =>
    if isPlain c then c :: collapse false rest
    else if inRun then collapse true rest
    else '-' :: collapse true rest

/-- The characters without the dashes at their end. -/
def dropLastDashes (cs : List Char) : List Char := (cs.reverse.dropWhile (· == '-')).reverse

/-- The characters of a name of any length: dashes only inside, and none beside another. -/
def squeeze (lowered : List Char) : List Char := Text.stripBoth (· == '-') (collapse false lowered)

/-- Cuts what is too long, and closes it with the beginning of `digest`. -/
def shorten (digest cs : List Char) : List Char :=
  if cs.length ≤ maxLength then cs
  else dropLastDashes (cs.take (maxLength - digestLength - 1)) ++ '-' :: digest.take digestLength

/-- The name that a text is reduced to. -/
def sanitize (text : String) : String :=
  let lowered := Text.lowercase text
  String.ofList (shorten (Digest.sha256Hex lowered) (squeeze lowered.toList))

/-- What a name is for. -/
inductive Kind where
  /-- The machine. -/
  | machine
  /-- The application at the provider. -/
  | app
  /-- The Deployment of the client, from whose name that of its ConfigMap is made. -/
  | deployment
  /-- The label that leads back to the Service. -/
  | label
deriving DecidableEq, Repr

/-- What a name of the kind begins with. -/
def Kind.stem : Kind → String
  | .machine => "frp-"
  | .app => "fly-tunnel-"
  | .deployment => "frpc-"
  | .label => ""

/-- The name of a kind for the Service `ns/name`. -/
def derive (kind : Kind) (ns name : String) : String :=
  sanitize (kind.stem ++ ns ++ "-" ++ name)

/-- The name of a kind for a Service. -/
def ofService (kind : Kind) (service : Kube.Service) : String :=
  derive kind service.ns service.name

end ServiceTunnel.Name
