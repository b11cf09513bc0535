import JenkinsOperator.DeployKey.Pem
import JenkinsOperator.DeployKey.Rsa

/-!
# Deploy keys

A deploy key is a PEM block whose payload is a usable RSA private key.
-/

namespace JenkinsOperator.DeployKey

/-- Why bytes are no deploy key. -/
inductive Error where
  | pem (error : Pem.Error)
  | rsa (error : Rsa.Error)
  deriving DecidableEq

/-- The message of a refused deploy key. -/
def Error.message : Error → String
  | .pem e => s!"failed to decode PEM block: {e.message}"
  | .rsa e => s!"invalid PKCS#1 RSA private key: {e.message}"

/-- Accepts a deploy key. -/
def validate (key : List UInt8) : Except Error Unit :=
  match Pem.payload key with
  | .error e => .error (.pem e)
  | .ok payload =>
    match Rsa.privateKey payload with
    | .error e => .error (.rsa e)
    | .ok _ => .ok ()

end JenkinsOperator.DeployKey
