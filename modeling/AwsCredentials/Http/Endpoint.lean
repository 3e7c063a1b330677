import AwsCredentials.Http.Address
import AwsCredentials.Settings
import AwsCredentials.Text.Alphanumeric

/-!
# Endpoints

Where the requests for a service go, and the region that they are signed for. A configured address
is taken as it is, but not together with the wish for a FIPS or a dual-stack host. Otherwise the
host follows from the family that the region belongs to: the token service has a host in every
region, and the identity service has one host for a whole family.
-/

namespace AwsCredentials

/-- A service that is called over HTTP. -/
inductive AwsService where
  /-- The service that issues credentials. -/
  | sts
  /-- The service that knows users and roles. -/
  | iam
  deriving DecidableEq, Repr

/-- The name by which requests for a service are signed. -/
def AwsService.name : AwsService → String
  | .sts => "sts"
  | .iam => "iam"

/-- What a host has to offer. -/
structure HostOptions where
  fips : Bool
  dualStack : Bool
  deriving DecidableEq, Repr

/-- A family of regions that share their domains and their identity service. -/
structure RegionFamily where
  /-- What stands before the first hyphen after which only the place and a number follow. -/
  starts : List String
  /-- The name that stands for the whole family in the place of a region. -/
  wholeName : String
  domain : String
  dualStackDomain : String
  /-- The region that requests for the shared hosts are signed for. -/
  home : String
  /-- The shared hosts of the identity service. -/
  identityHosts : List (HostOptions × String)
  /-- Whether the usual hosts of the token service are its FIPS hosts as well. -/
  usualFips : Bool := false
  deriving Repr

namespace RegionFamily

/-- The family of the regions that no other family claims. -/
def commercial : RegionFamily where
  starts := ["us", "eu", "ap", "sa", "ca", "me", "af", "il", "mx"]
  wholeName := "aws-global"
  domain := "amazonaws.com"
  dualStackDomain := "api.aws"
  home := "us-east-1"
  identityHosts :=
    [(⟨false, false⟩, "iam.amazonaws.com"), (⟨true, false⟩, "iam-fips.amazonaws.com"),
     (⟨false, true⟩, "iam.global.api.aws"), (⟨true, true⟩, "iam-fips.global.api.aws")]

def china : RegionFamily where
  starts := ["cn"]
  wholeName := "aws-cn-global"
  domain := "amazonaws.com.cn"
  dualStackDomain := "api.amazonwebservices.com.cn"
  home := "cn-north-1"
  identityHosts :=
    [(⟨false, false⟩, "iam.cn-north-1.amazonaws.com.cn"),
     (⟨false, true⟩, "iam.global.api.amazonwebservices.com.cn")]

def government : RegionFamily where
  starts := ["us-gov"]
  wholeName := "aws-us-gov-global"
  domain := "amazonaws.com"
  dualStackDomain := "api.aws"
  home := "us-gov-west-1"
  identityHosts :=
    [(⟨false, false⟩, "iam.us-gov.amazonaws.com"), (⟨true, false⟩, "iam.us-gov.amazonaws.com"),
     (⟨false, true⟩, "iam.us-gov.api.aws"), (⟨true, true⟩, "iam.us-gov.api.aws")]
  usualFips := true

/-- A family with nothing but its own domains. -/
def isolated (start wholeName home domain dualStackDomain : String) : RegionFamily where
  starts := [start]
  wholeName
  domain
  dualStackDomain
  home
  identityHosts := [(⟨false, false⟩, "iam." ++ home ++ "." ++ domain)]

/-- The families beside the commercial one. -/
def others : List RegionFamily :=
  [china, government,
   isolated "us-iso" "aws-iso-global" "us-iso-east-1" "c2s.ic.gov" "api.aws.ic.gov",
   isolated "us-isob" "aws-iso-b-global" "us-isob-east-1" "sc2s.sgov.gov" "api.aws.scloud",
   isolated "eu-isoe" "aws-iso-e-global" "eu-isoe-west-1" "cloud.adc-e.uk"
     "api.cloud-aws.adc-e.uk",
   isolated "us-isof" "aws-iso-f-global" "us-isof-south-1" "csp.hci.ic.gov"
     "api.aws.hci.ic.gov",
   isolated "eusc-de" "aws-eusc-global" "eusc-de-east-1" "amazonaws.eu"
     "api.amazonwebservices.eu"]

/-- Whether the characters are a hyphen, a word, a hyphen and a number. -/
def isPlaceAndNumber (cs : List Char) : Bool :=
  match Text.splitAt '-' cs with
  | [[], place, number] =>
    !place.isEmpty && place.all (fun c => c.isAlphanum || c == '_')
      && !number.isEmpty && number.all Char.isDigit
  | _ => false

/-- Whether a family claims a region by its name. -/
def claims (family : RegionFamily) (region : String) : Bool :=
  family.wholeName == region || family.starts.any fun start =>
    (Text.dropStart? start.toList region.toList).any isPlaceAndNumber

/-- The family of a region. -/
def ofRegion (region : String) : RegionFamily :=
  (others.find? fun family => family.claims region).getD commercial

/-- The domain of the hosts of a family. -/
def domainFor (family : RegionFamily) (options : HostOptions) : String :=
  if options.dualStack then family.dualStackDomain else family.domain

end RegionFamily

/-- Where requests go, and the region that they are signed for. -/
structure Endpoint where
  address : Address
  region : String
  deriving DecidableEq, Repr

/-- Why there is no endpoint. -/
inductive EndpointError where
  /-- The region cannot be part of the name of a host. -/
  | badRegion (region : String)
  /-- A configured address excludes the choice of a host. -/
  | fixedHost
  /-- The address cannot be read. -/
  | badAddress (address : String)
  deriving DecidableEq, Repr

namespace EndpointError

/-- A bad region is found while the request is built, all else when it is sent. -/
def kind : EndpointError → ApiErrorKind
  | .badRegion _ => .construction
  | _ => .dispatch

/-- What is said of a missing endpoint. -/
def message : EndpointError → String
  | .badRegion region => "the region " ++ Text.quoted region ++ " is not a valid host label"
  | .fixedHost => "FIPS and dual-stack hosts are not supported together with a custom endpoint"
  | .badAddress address => "the endpoint " ++ Text.quoted address ++ " is not a valid address"

end EndpointError

/-- Whether the characters can be a label of a host name. -/
def isHostLabel (label : List Char) : Bool :=
  !label.isEmpty && (String.ofList label).utf8ByteSize ≤ 63 && label.head? != some '-'
    && label.all fun c => Text.isAlphanumeric c || c == '-'

/-- Whether a region can be part of the name of a host. -/
def isRegionName (region : String) : Bool :=
  (Text.splitAt '.' region.toList).all isHostLabel

/-- The host of the token service and the region that requests to it are signed for. -/
def stsHost (region : String) (options : HostOptions) : String × String :=
  let family := RegionFamily.ofRegion region
  if region = "aws-global" ∧ options = ⟨false, false⟩ then ("sts.amazonaws.com", family.home)
  else
    let name :=
      if options.fips && (options.dualStack || !family.usualFips) then "sts-fips" else "sts"
    (name ++ "." ++ region ++ "." ++ family.domainFor options, region)

/-- The host of the identity service and the region that requests to it are signed for. -/
def iamHost (region : String) (options : HostOptions) : String × String :=
  let family := RegionFamily.ofRegion region
  match family.identityHosts.lookup options with
  | some host => (host, family.home)
  | none =>
    let name := if options.fips then "iam-fips" else "iam"
    (name ++ "." ++ region ++ "." ++ family.domainFor options, region)

/-- The address that is configured for a service. -/
def Endpoints.address? (endpoints : Endpoints) : AwsService → Option String
  | .sts => endpoints.sts
  | .iam => endpoints.iam

namespace Settings

/-- What the usual hosts have to offer. -/
def hostOptions (s : Settings) : HostOptions := ⟨s.useFips, s.useDualStack⟩

/-- An address that is written out. -/
def readAddress (address : String) : Except EndpointError Address :=
  match Address.parse? address with
  | some a => .ok a
  | none => .error (.badAddress address)

/-- Where the requests for a service go. -/
def endpoint (s : Settings) (service : AwsService) : Except EndpointError Endpoint := do
  if !isRegionName s.region then throw (.badRegion s.region)
  match s.endpoints.address? service with
  | some address =>
    if s.useFips || s.useDualStack then throw .fixedHost
    return ⟨← readAddress address, s.region⟩
  | none =>
    let (host, region) := match service with
      | .sts => stsHost s.region s.hostOptions
      | .iam => iamHost s.region s.hostOptions
    return ⟨← readAddress ("https://" ++ host), region⟩

end Settings

end AwsCredentials
