import GatewayDirectory.Sync.Credential
import GatewayDirectory.Text.Blank

/-!
# Accounts

The account that a credential scans. It is the fifth field of the role's resource name, which reads
`arn:partition:service:region:account:resource` and whose region alone may be empty.
-/

namespace GatewayDirectory.Sync

/-- Why an account is not known. -/
inductive AccountError where
  | malformedArn (arn : String)
  | lookup (message : String)
deriving DecidableEq, Inhabited

/-- The message of an account error. -/
def AccountError.message : AccountError → String
  | .malformedArn arn => "malformed role ARN: " ++ arn
  | .lookup message => "account lookup failed: " ++ message

/-- The account field of a resource name. The resource may hold further colons. -/
def accountOfArn (arn : String) : Except AccountError String :=
  match Text.splitAt ':' arn.toList with
  | scheme :: partition :: service :: _region :: account :: resource :: more =>
    if scheme = ['a', 'r', 'n'] ∧ partition ≠ [] ∧ service ≠ [] ∧ account ≠ [] ∧
        (resource ≠ [] ∨ more ≠ []) then
      .ok (String.ofList account)
    else .error (.malformedArn arn)
  | _ => .error (.malformedArn arn)

end GatewayDirectory.Sync
