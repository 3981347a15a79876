/-!
# Severities

A finding is critical, high, medium or low, by the kind of credential it is. A kind that no list
names is low.
-/

set_option autoImplicit false

namespace LeakScan

/-- How bad a finding is. -/
inductive Severity where
  | critical
  | high
  | medium
  | low
deriving DecidableEq, Repr

namespace Severity

/-- Every severity, the worst first. -/
def all : List Severity := [critical, high, medium, low]

/-- The word for a severity. -/
def name : Severity → String
  | critical => "critical"
  | high => "high"
  | medium => "medium"
  | low => "low"

/-- The order of severities: the worst comes first. -/
def rank : Severity → Nat
  | critical => 0
  | high => 1
  | medium => 2
  | low => 3

/-- The severity a word stands for. -/
def ofName? (s : String) : Option Severity :=
  all.find? (·.name = s)

def criticalKinds : List String :=
  ["AWS", "Stripe", "SendGrid", "RSA Private Key", "Azure Storage"]

def highKinds : List String :=
  ["Google", "Slack", "Twilio", "GitHub", "OpenAI", "Facebook"]

def mediumKinds : List String :=
  ["JWT", "Heroku", "Mailgun", "Firebase", "DigitalOcean", "Cloudflare", "Dropbox", "Notion",
    "Netlify", "Terraform", "CircleCI"]

/-- The severity of a kind of credential. -/
def ofKind (kind : String) : Severity :=
  if criticalKinds.contains kind then critical
  else if highKinds.contains kind then high
  else if mediumKinds.contains kind then medium
  else low

theorem ofName?_name (s : Severity) : ofName? s.name = some s := by
  cases s <;> decide

end Severity
end LeakScan
