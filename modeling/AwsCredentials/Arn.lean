import AwsCredentials.Error
import AwsCredentials.Text.Ascii

/-!
# Resource names and partitions

An ARN names a resource by five fields after `arn`: partition, service, region, account and
resource, with a colon before each. Only the resource may hold colons itself. `Arn.parse?` reads
such a name and `Arn.text` writes it. A region belongs to the partition that its prefix tells.
-/

namespace AwsCredentials

/-- The fields of a resource name. -/
structure Arn where
  partition : String
  service : String
  region : String
  accountId : String
  resource : String
  deriving DecidableEq, Repr, Inhabited

namespace Arn

/-- The fields of the characters after `arn:`, of which the partition, the service and the resource
must not be empty. -/
def ofFields? (cs : List Char) : Option Arn := do
  let (partition, cs) ← Text.cut? ':' cs
  let (service, cs) ← Text.cut? ':' cs
  let (region, cs) ← Text.cut? ':' cs
  let (account, resource) ← Text.cut? ':' cs
  if partition.isEmpty || service.isEmpty || resource.isEmpty then none
  else some ⟨String.ofList partition, String.ofList service, String.ofList region,
    String.ofList account, String.ofList resource⟩

/-- Reads a resource name. -/
def parse? (s : String) : Option Arn := do
  let (start, fields) ← Text.cut? ':' s.toList
  if start = "arn".toList then ofFields? fields else none

/-- Reads a resource name, or says what is wrong. -/
def read (s : String) : Except Error Arn :=
  match parse? s with
  | some arn => .ok arn
  | none => .error (.setting ("malformed ARN: " ++ Text.quoted s))

/-- The written form of a resource name. -/
def text (arn : Arn) : String :=
  "arn:" ++ arn.partition ++ ":" ++ arn.service ++ ":" ++ arn.region ++ ":" ++ arn.accountId ++ ":"
    ++ arn.resource

/-- The account, if its field is a full account number of twelve ASCII digits. -/
def account? (arn : Arn) : Option String :=
  let digits := arn.accountId.toList
  if digits.length = 12 ∧ digits.all Char.isDigit then some arn.accountId else none

end Arn

namespace Partition

/-- The region prefixes of the partitions beside the commercial one. -/
def prefixes : List (String × String) :=
  [("cn-", "aws-cn"), ("us-gov-", "aws-us-gov"), ("us-isob-", "aws-iso-b"),
   ("us-isof-", "aws-iso-f"), ("us-iso-", "aws-iso"), ("eu-isoe-", "aws-iso-e")]

/-- The partition of a region. A region with none of the prefixes is in the commercial one. -/
def ofRegion (region : String) : String :=
  match prefixes.find? fun p => p.1.toList.isPrefixOf region.toList with
  | some p => p.2
  | none => "aws"

end Partition

end AwsCredentials
