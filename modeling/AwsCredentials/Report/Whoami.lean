import AwsCredentials.Json.Value
import AwsCredentials.Session

/-!
# Printing an identity

Who a session belongs to, as lines for a reader or as a JSON object. A part that is not known is
left out, but for the account, which has its own word for that.
-/

namespace AwsCredentials

/-- The forms in which an identity is printed. -/
inductive WhoamiFormat where
  | text
  | json
  deriving DecidableEq, Repr

/-- What is printed of an identity. -/
structure WhoamiReport where
  accountId : String
  partition : String
  arn : Option String
  userId : Option String
  region : String
  origin : Origin
  deriving DecidableEq, Repr

namespace WhoamiReport

/-- What is printed of a session. -/
def ofSession (s : Session) : WhoamiReport :=
  { accountId := s.account.id, partition := s.account.partition, arn := s.caller.map (·.arn)
    userId := s.caller.map (·.userId), region := s.region, origin := s.origin }

/-- The report as lines. -/
def lines (r : WhoamiReport) : List String :=
  ["Account:   " ++ (if r.accountId.isEmpty then "(unknown)" else r.accountId),
    "Partition: " ++ r.partition]
    ++ r.arn.toList.map ("ARN:       " ++ ·)
    ++ r.userId.toList.map ("UserId:    " ++ ·)
    ++ ["Region:    " ++ r.region, "Origin:    " ++ r.origin.name]

/-- The report as an object. -/
def object (r : WhoamiReport) : Json :=
  .object ([("account_id", .string r.accountId), ("partition", .string r.partition)]
    ++ r.arn.toList.map (fun arn => ("arn", .string arn))
    ++ r.userId.toList.map (fun id => ("user_id", .string id))
    ++ [("region", .string r.region), ("origin", .string r.origin.name)])

/-- The printed report. -/
def render (r : WhoamiReport) : WhoamiFormat → String
  | .text => "\n".intercalate r.lines
  | .json => r.object.pretty

end WhoamiReport

end AwsCredentials
