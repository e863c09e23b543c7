import VectorIndex.Error
import VectorIndex.Text.Affix
import VectorIndex.Text.Base64
import VectorIndex.Text.Blank
import VectorIndex.Text.Decimal
import VectorIndex.Text.Duration
import VectorIndex.Url.Parse

/-!
# Options of buckets

The client of a bucket takes options from environment variables.  Their texts are read when
the client is made, in a fixed order, and `BucketOptions.validate` tells the first fault that
is found then: of the ways to store objects, of the credentials, of the encryption, and last
of the connection.
-/

set_option autoImplicit false

namespace VectorIndex

/-- What the text of an option has to spell. -/
inductive OptionKind where
  | boolean
  | duration
  | word
  | halfWord
  /-- The value of a field of a request. -/
  | field
  deriving DecidableEq, Repr

namespace OptionKind

/-- The name of a kind. -/
def name : OptionKind → String
  | .boolean => "boolean"
  | .duration => "Duration"
  | .word => "usize"
  | .halfWord => "u32"
  | .field => "HeaderValue"

/-- The truth value that a text spells, in upper or lower case. -/
def boolean? (text : String) : Option Bool :=
  let text := String.ofList (text.toList.map Char.toLower)
  if ["1", "true", "on", "yes", "y"].contains text then some true
  else if ["0", "false", "off", "no", "n"].contains text then some false
  else none

/-- Whether a text can be the value of a field: it has no control characters but tabs. -/
def isField (text : String) : Bool :=
  text.toList.all fun c => c = '\t' || (0x20 ≤ c.toNat && c ≠ '\x7f')

/-- Whether a text is of a kind. -/
def accepts : OptionKind → String → Bool
  | .boolean, text => (boolean? text).isSome
  | .duration, text => (Duration.ofText? text).isSome
  | .word, text => (Text.Decimal.word? text).isSome
  | .halfWord, text => (Text.Decimal.word? text).any (·.toNat < 0x100000000)
  | .field, text => isField text

end OptionKind

/-- The texts of options by name. -/
structure BucketOptions where
  entries : List (String × String) := []
  deriving DecidableEq, Repr

namespace BucketOptions

/-- What the names of variables for options start with. -/
def variableStart : String := "AWS_"

/-- The options that variables give. -/
def ofVariables (bindings : List (String × String)) : BucketOptions where
  entries := bindings.filterMap fun v =>
    (Text.rest? variableStart.toList v.1.toList).map fun name =>
      (String.ofList (name.map Char.toLower), v.2)

/-- The text of an option. -/
def find? (o : BucketOptions) (name : String) : Option String :=
  o.entries.lookup name

/-- Whether an option is given. -/
def has (o : BucketOptions) (name : String) : Bool :=
  (o.find? name).isSome

/-- The options but one. -/
def without (o : BucketOptions) (name : String) : BucketOptions :=
  { entries := o.entries.filter (·.1 ≠ name) }

/-- Refuses an option whose text is not accepted. -/
def require (o : BucketOptions) (name : String) (accepts : String → Bool)
    (fault : String → StoreError) : Except StoreError Unit :=
  match o.find? name with
  | some text => if accepts text then .ok () else .error (fault text)
  | none => .ok ()

/-- Refuses an option that is not of its kind. -/
def requireKind (o : BucketOptions) (name : String) (kind : OptionKind) :
    Except StoreError Unit :=
  o.require name kind.accepts fun text =>
    .backend "Config" ("failed to parse \"" ++ text ++ "\" as " ++ kind.name)

/-- Whether an option is given and true. -/
def isOn (o : BucketOptions) (name : String) : Bool :=
  (o.find? name).bind OptionKind.boolean? == some true

/-! ## Ways to store objects -/

/-- Whether a text is the name of a table, or such a name and milliseconds behind a colon. -/
def isTable (cs : List Char) : Bool :=
  match Text.cut? ':' cs with
  | some (_, limit) => (Text.Decimal.word? (String.ofList limit)).isSome
  | none => true

/-- Whether a text is a status with a name and a value in front of it. -/
def isFieldWithStatus (cs : List Char) : Bool :=
  match (Text.cut? ':' cs).bind fun p => Text.cut? ':' p.2 with
  | some (_, status) =>
    let digits := Text.withoutMargins status
    digits.length = 3 && digits.all Char.isDigit && digits.head? != some '0'
  | none => false

/-- Whether a text says how to copy objects without replacing any. -/
def isCopyMode (text : String) : Bool :=
  Text.withoutMargins text.toList == "multipart".toList ||
    match Text.cut? ':' text.toList with
    | some (mode, value) =>
      match String.ofList (Text.withoutMargins mode) with
      | "header" => value.contains ':'
      | "header-with-status" => isFieldWithStatus value
      | "dynamo" => isTable value
      | _ => false
    | none => false

/-- Whether a text says how to store objects under conditions. -/
def isPutMode (text : String) : Bool :=
  match String.ofList (Text.withoutMargins text.toList) with
  | "etag" => true
  | "etag-put-if-not-exists" => true
  | mode =>
    match Text.cut? ':' mode.toList with
    | some (name, value) => name == "dynamo".toList && isTable value
    | none => false

/-- Whether a text is the name of the checksum that is known. -/
def isChecksum (text : String) : Bool :=
  text.toList.map Char.toLower == "sha256".toList

/-- Checks the ways to store objects. -/
def checkModes (o : BucketOptions) : Except StoreError Unit := do
  let fault (start stop text : String) : StoreError :=
    .backend "Config" (start ++ "\"" ++ text ++ "\"" ++ stop)
  o.require "checksum_algorithm" isChecksum (fault "" " is not a valid checksum algorithm")
  o.require "copy_if_not_exists" isCopyMode (fault "Failed to parse " " as S3CopyIfNotExists")
  o.require "conditional_put" isPutMode (fault "Failed to parse " " as S3PutConditional")

/-! ## Connections -/

/-- Whether a text is the address of a host. -/
def isServer (text : String) : Bool :=
  match Url.parse text with
  | .ok u => u.authority.any (!·.host.isEmpty)
  | .error _ => false

/-- Whether a text is the address of a proxy; the scheme may be missing. -/
def isProxy (text : String) : Bool :=
  match Url.parse text with
  | .ok _ => isServer text || isServer ("http://" ++ text)
  | .error .relativeWithoutBase => isServer ("http://" ++ text)
  | .error _ => false

/-- Options of connections, but for what they are opened with. -/
def connectionOptions : List (String × OptionKind) :=
  [("timeout", .duration), ("connect_timeout", .duration), ("pool_idle_timeout", .duration),
   ("pool_max_idle_per_host", .word), ("http2_keep_alive_interval", .duration),
   ("http2_keep_alive_timeout", .duration), ("http2_keep_alive_while_idle", .boolean),
   ("http2_max_frame_size", .halfWord), ("http1_only", .boolean), ("http2_only", .boolean),
   ("allow_invalid_certificates", .boolean)]

/-- Checks what a connection needs. -/
def checkConnection (o : BucketOptions) : Except StoreError Unit := do
  o.requireKind "user_agent" .field
  o.require "proxy_url" isProxy fun _ => .backend "HTTP client" "builder error"
  connectionOptions.forM fun p => o.requireKind p.1 p.2

/-! ## Credentials -/

/-- Checks where credentials come from: a key with its secret, or else a service that is asked
for them.  The last resort is a service nearby, for which there is a time limit anyway. -/
def checkCredentials (o : BucketOptions) : Except StoreError Unit :=
  match o.has "access_key_id", o.has "secret_access_key" with
  | true, true => .ok ()
  | false, true => .error (.backend "S3" "Missing AccessKeyId")
  | true, false => .error (.backend "S3" "Missing SecretAccessKey")
  | false, false =>
    if (o.has "web_identity_token_file" && o.has "role_arn") ||
        o.has "container_credentials_relative_uri" then o.checkConnection
    else do
      o.requireKind "imdsv1_fallback" .boolean
      (o.without "connect_timeout").checkConnection

/-- Checks the zone of a bucket that is in one; its name ends in the zone. -/
def checkZone (o : BucketOptions) (bucket : String) : Except StoreError Unit := do
  o.requireKind "s3_express" .boolean
  if o.isOn "s3_express" then
    match Text.stem? "--x-s3" bucket with
    | some stem =>
      if Text.hasPart "--".toList stem.toList then o.checkConnection
      else .error (.backend "S3" ("Invalid Zone suffix for bucket '" ++ bucket ++ "'"))
    | none => .error (.backend "S3" ("Invalid Zone suffix for bucket '" ++ bucket ++ "'"))

/-! ## Encryption -/

/-- The way of encryption with a key that is sent along. -/
def ownKey : String := "sse-c"

/-- The ways of encryption. -/
def encryptions : List String := ["AES256", "aws:kms", "aws:kms:dsse", ownKey]

/-- A field for encryption that cannot be sent. -/
def badField (name reason : String) : StoreError :=
  .backend "S3" ("Invalid encryption header values. Header: " ++ name ++ ", source: " ++ reason)

/-- Checks the key that is sent along. -/
def checkOwnKey (o : BucketOptions) : Except StoreError Unit :=
  let fault (reason : String) : Except StoreError Unit :=
    .error (badField "x-amz-server-side-encryption-customer-key" reason)
  match o.find? "sse_customer_key_base64" with
  | none => fault "Missing customer key"
  | some key =>
    if OptionKind.isField key then
      match Text.Base64.decode (Bytes.ofText key) with
      | .ok _ => .ok ()
      | .error e => fault e.message
    else fault "failed to parse header value"

/-- Checks how objects are encrypted. -/
def checkEncryption (o : BucketOptions) : Except StoreError Unit := do
  o.require "server_side_encryption" encryptions.contains fun text =>
    .backend "S3" ("Invalid encryption type: " ++ text ++ ". Valid values are \"AES256\", " ++
      "\"sse:kms\", \"sse:kms:dsse\" and \"sse-c\".")
  if o.has "server_side_encryption" then
    o.requireKind "sse_bucket_key_enabled" .boolean
    if o.find? "server_side_encryption" = some ownKey then o.checkOwnKey
    else
      o.require "sse_kms_key_id" OptionKind.isField fun _ =>
        badField "kms-key-id" "failed to parse header value"

/-! ## All options -/

/-- Checks the options for a bucket. -/
def validate (o : BucketOptions) (bucket : String) : Except StoreError Unit := do
  o.checkModes
  o.checkCredentials
  o.checkZone bucket
  o.requireKind "virtual_hosted_style_request" .boolean
  o.checkEncryption
  ["unsigned_payload", "skip_signature", "disable_tagging", "request_payer"].forM
    (o.requireKind · .boolean)
  o.checkConnection

end BucketOptions

end VectorIndex
