import Sokar.Library.ExpiringKeys
import Sokar.Library.Transaction
import Sokar.Shared.Text

/-!
# Authorization endpoints

The routes of `mcp/oauth`: registration, authorization, consent, the token endpoint and revocation,
one Redis command at a time.  The values stored are written and read back as JSON, which leaves
them as they are; keys differ by their prefix, so each prefix has a key space of its own.  A random
identifier is drawn in the command that stores it, since nobody can have seen it before.

Every command that takes an authorization further is entered in a history, which no route reads.
-/

namespace Sokar.OAuth

open Process Transaction

/-- What the routes use of a parsed `URL`. -/
structure ParsedUrl where
  protocol : String
  username : String
  password : String
  hostname : String
  port : String
  hash : String
  deriving DecidableEq

/-- The issuer, random identifiers, the digest of code verifiers and the `URL` parser. -/
class OAuthEnv extends Sha256 where
  issuer : String
  uuid : Nat → String
  uuid_injective : Function.Injective uuid
  uuid_ne_empty : ∀ drawn, uuid drawn ≠ ""
  /-- `base64url(createHash('sha256').update(text).digest())`. -/
  sha256Base64url : String → String
  parseUrl : String → Option ParsedUrl

inductive TokenEndpointAuthMethod where
  | client_secret_basic | client_secret_post | none
  deriving DecidableEq

structure RegisteredClient where
  clientId : String
  clientSecretHash : Option String
  redirectUris : List String
  clientName : String
  createdAt : Instant
  tokenEndpointAuthMethod : TokenEndpointAuthMethod
  grantTypes : List String
  responseTypes : List String
  deriving DecidableEq

/-- What the consent page was shown for. -/
structure CsrfData where
  clientId : String
  redirectUri : String
  state : String
  scopes : List String
  codeChallenge : Option String
  codeChallengeMethod : Option String
  restaurantId : Option Id
  restaurantName : Option String
  resource : Option String
  deriving DecidableEq

structure AuthCode where
  clientId : String
  restaurantId : Option Id
  restaurantName : Option String
  scopes : List String
  redirectUri : String
  resource : Option String
  codeChallenge : Option String
  codeChallengeMethod : Option String
  deriving DecidableEq

structure StoredToken where
  clientId : String
  restaurantId : Option Id
  restaurantName : Option String
  scopes : List String
  resource : Option String
  accessToken : String
  refreshToken : String
  deriving DecidableEq

structure ExposureSettings where
  restaurantId : Id
  mcpEnabled : Bool
  deriving DecidableEq

structure McpRestaurant where
  id : Id
  name : String
  agenticOptIn : Bool
  deriving DecidableEq

structure RegisterInput where
  ip : String
  clientName : Option String
  redirectUris : Option (List String)
  tokenEndpointAuthMethod : Option String
  grantTypes : Option (List String)
  responseTypes : Option (List String)
  deriving DecidableEq

structure AuthorizeQuery where
  clientId : Option String
  redirectUri : Option String
  responseType : Option String
  state : Option String
  scope : Option String
  restaurantId : Option String
  resource : Option String
  codeChallenge : Option String
  codeChallengeMethod : Option String
  deriving DecidableEq

structure ConsentInput where
  clientId : Option String
  redirectUri : Option String
  state : Option String
  scope : Option String
  restaurantId : Option String
  resource : Option String
  codeChallenge : Option String
  codeChallengeMethod : Option String
  action : Option String
  csrfToken : Option String
  deriving DecidableEq

/-- Credentials come in the body or, decoded, after `Basic` in a header. -/
structure CredentialsInput where
  clientId : Option String
  clientSecret : Option String
  basic : Option String
  deriving DecidableEq

structure TokenInput where
  ip : String
  credentials : CredentialsInput
  grantType : Option String
  code : Option String
  redirectUri : Option String
  codeVerifier : Option String
  refreshToken : Option String
  resource : Option String
  deriving DecidableEq

structure RevokeInput where
  ip : String
  credentials : CredentialsInput
  token : Option String
  deriving DecidableEq

/-- A status with the title of the page or the error, and its description. -/
structure OAuthError where
  status : Nat
  error : String
  description : String
  deriving DecidableEq

structure ConsentPage where
  clientName : String
  clientId : String
  redirectUri : String
  state : String
  scope : String
  restaurantName : Option String
  resource : Option String
  codeChallenge : String
  codeChallengeMethod : String
  csrfToken : String
  deriving DecidableEq

structure TokenResponse where
  accessToken : String
  expiresIn : Nat
  refreshToken : Option String
  scope : String
  deriving DecidableEq

inductive OAuthReply where
  | registered (client : RegisteredClient) (clientSecret : Option String)
  | consentPage (page : ConsentPage)
  | redirect (redirectUri : String) (parameters : List (String × String))
  | tokens (response : TokenResponse)
  | revoked
  deriving DecidableEq

/-- How far authorizations have come. -/
inductive OAuthEvent where
  | requested (csrfToken : String) (query : AuthorizeQuery)
  | consented (csrfToken code : String)
  | exchanged (code : String) (input : TokenInput) (token : StoredToken)
  | refreshed (refreshToken : String) (token : StoredToken)
  deriving DecidableEq

structure OAuthData where
  drawn : Nat
  clients : ExpiringKeys String RegisteredClient
  csrf : ExpiringKeys String CsrfData
  codes : ExpiringKeys String AuthCode
  tokens : ExpiringKeys String StoredToken
  refreshes : ExpiringKeys String StoredToken
  rates : ExpiringKeys String Nat
  exposures : List ExposureSettings
  restaurants : List McpRestaurant
  history : List OAuthEvent

abbrev OAuthSession := Nat

abbrev OAuthStore := Store OAuthData Empty OAuthSession

abbrev OAuthProg := Prog OAuthStore

def TTL_CLIENT : Nat := 60 * 60 * 24 * 365

def TTL_CODE : Nat := 60 * 10

def TTL_TOKEN : Nat := 60 * 60 * 24 * 30

def TTL_REFRESH : Nat := 60 * 60 * 24 * 90

/-- When something stored with `EX` expires. -/
def expiry (now : Instant) (ttlSec : Nat) : Instant :=
  now + 1000 * ttlSec

def filled (text : Option String) : Option String :=
  text.filter (· ≠ "")

/-- A text given that is not the one expected. -/
def differs (given : Option String) (expected : String) : Bool :=
  (filled given).any (· ≠ expected)

def mcpScopes : List String := ["mcp:read", "mcp:reserve", "mcp:cancel"]

/-- `/[a-zA-Z0-9_-]/`. -/
def isUrlChar (char : Char) : Bool :=
  char.isAlphanum || ['_', '-'].contains char

/-- `/^[0-9a-f-]{36}$/i`. -/
def isRestaurantId (text : String) : Bool :=
  text.length == 36 && text.toList.all fun char =>
    char.isDigit || ('a' ≤ char && char ≤ 'f') || ('A' ≤ char && char ≤ 'F') || char == '-'

/-- `/^[A-Za-z0-9_-]{43,128}$/`. -/
def isCodeChallenge (text : String) : Bool :=
  43 ≤ text.length && text.length ≤ 128 && text.toList.all isUrlChar

/-- One or more such characters between two texts. -/
def matchesAround (start stop : String) (allowed : Char → Bool) (uri : String) : Bool :=
  let chars := uri.toList
  start.toList.isPrefixOf chars && stop.toList.isSuffixOf chars &&
    start.length + stop.length < chars.length &&
      ((chars.drop start.length).take (chars.length - start.length - stop.length)).all allowed

def KNOWN_REDIRECT_PATTERNS : List ((String → Bool) × String) := [
  (fun uri => uri == "https://claude.ai/api/mcp/auth_callback", "Claude"),
  (matchesAround "https://claude.ai/api/mcp/auth_callback/" "" isUrlChar, "Claude"),
  (matchesAround "https://chatgpt.com/backend-api/mcp/" "/callback" isUrlChar, "ChatGPT"),
  (matchesAround "https://chatgpt.com/connector/oauth/" "" isUrlChar, "ChatGPT"),
  (fun uri => uri == "https://chatgpt.com/connector_platform_oauth_redirect", "ChatGPT"),
  (matchesAround "https://chat.mistral.ai/" "/callback" isUrlChar, "Mistral"),
  (matchesAround "http://localhost:" "/callback" Char.isDigit, "Claude Code"),
  (matchesAround "http://127.0.0.1:" "/callback" Char.isDigit, "Claude Code")]

def matchKnownRedirect (uri : String) : Option String :=
  (KNOWN_REDIRECT_PATTERNS.find? fun entry => entry.1 uri).map Prod.snd

def parseTokenEndpointAuthMethod (value : Option String) : Option TokenEndpointAuthMethod :=
  match value with
  | none => some .client_secret_basic
  | some "client_secret_basic" => some .client_secret_basic
  | some "client_secret_post" => some .client_secret_post
  | some "none" => some .none
  | some _ => none

def normalizeGrantTypes (value : Option (List String)) : Option (List String) :=
  match value with
  | none => some ["authorization_code", "refresh_token"]
  | some value =>
    let grantTypes := value.eraseDups
    if value.isEmpty || 2 < value.length || !grantTypes.contains "authorization_code" ||
        grantTypes.any (fun grantType =>
          !(["authorization_code", "refresh_token"].contains grantType)) then none
    else some grantTypes

def normalizeResponseTypes (value : Option (List String)) : Option (List String) :=
  match value with
  | none => some ["code"]
  | some value => if value = ["code"] then some ["code"] else none

def validateRedirectUri [OAuthEnv] (value : String) : Bool :=
  value ≠ "" && utf16Length value ≤ 2048 && (OAuthEnv.parseUrl value).any fun uri =>
    uri.hash = "" && uri.username = "" && uri.password = "" &&
      (uri.protocol = "https:" ||
        (uri.protocol = "http:" && uri.port ≠ "" &&
          ["localhost", "127.0.0.1", "[::1]"].contains uri.hostname))

def normalizeRedirectUris [OAuthEnv] (value : Option (List String)) : Option (List String) :=
  match value with
  | none => none
  | some value =>
    if value.isEmpty || 10 < value.length || !value.all validateRedirectUri then none
    else some value.eraseDups

/-- `plain` is refused. -/
def verifyPkce [OAuthEnv] (codeVerifier : String) (codeChallenge method : Option String) : Bool :=
  match filled codeChallenge with
  | none => true
  | some challenge =>
    method == some "S256" && OAuthEnv.sha256Base64url codeVerifier == challenge

inductive SecretSource where
  | basic | body
  deriving DecidableEq

structure ClientCredentials where
  clientId : Option String
  clientSecret : Option String
  clientSecretSource : Option SecretSource
  deriving DecidableEq

def CredentialsInput.extractClientCredentials (input : CredentialsInput) : ClientCredentials :=
  match input.basic.map fun decoded => decoded.toList.span (· ≠ ':') with
  | some (clientId, ':' :: clientSecret) =>
    ⟨some (String.ofList clientId), some (String.ofList clientSecret), some .basic⟩
  | _ => ⟨input.clientId, input.clientSecret,
      if (filled input.clientSecret).isSome then some .body else none⟩

def isValidClientAuthentication [OAuthEnv] (client : Option RegisteredClient)
    (credentials : ClientCredentials) : Bool :=
  match client with
  | none => true
  | some client =>
    match client.tokenEndpointAuthMethod, credentials.clientSecretSource with
    | .none, _ => (filled credentials.clientSecret).isNone
    | .client_secret_basic, some .basic | .client_secret_post, some .body =>
      match filled client.clientSecretHash, filled credentials.clientSecret with
      | some expected, some clientSecret => Sha256.sha256 clientSecret == expected
      | _, _ => false
    | _, _ => false

variable (session : OAuthSession)

structure OAuthRate where
  max : Nat
  windowMs : Nat
  key : String
  deriving DecidableEq

def OAUTH_RATE_TOKEN : OAuthRate := ⟨10, 60000, "token"⟩

def OAUTH_RATE_REGISTER : OAuthRate := ⟨5, 60000, "register"⟩

def OAUTH_RATE_REVOKE : OAuthRate := ⟨20, 60000, "revoke"⟩

/-- The counter with the time its window ends. -/
def OAuthRate.next (config : OAuthRate) (ip : String) (data : OAuthData) (now : Instant) :
    Nat × Instant :=
  match data.rates (config.key ++ ":" ++ ip) with
  | none => (1, now + config.windowMs)
  | some (count, expiresAt) =>
    if now < expiresAt then (count + 1, expiresAt) else (1, now + config.windowMs)

def checkOauthRate (ip : String) (config : OAuthRate) (description : String) :
    OAuthProg (Except OAuthError Unit) :=
  commit session
    (fun data now =>
      if (config.next ip data now).1 ≤ config.max then .ok ()
      else .error ⟨429, "too_many_requests", description⟩)
    fun data now =>
      let next := config.next ip data now
      { data with rates := data.rates.set (config.key ++ ":" ++ ip) next.1 next.2 }

/-- `getJson` of a client. -/
def getClient (clientId : String) : OAuthProg (Option RegisteredClient) :=
  query fun data now => data.clients.get now clientId

/-- `getJson` of an access token. -/
def getToken (token : String) : OAuthProg (Option StoredToken) :=
  query fun data now => data.tokens.get now token

/-- `getJson` of a refresh token. -/
def getRefresh (token : String) : OAuthProg (Option StoredToken) :=
  query fun data now => data.refreshes.get now token

/-- A step that commits a change and goes on. -/
def command (change : OAuthData → Instant → OAuthData) : OAuthProg Unit :=
  commit session (fun _ _ => ()) change

/-- What is given for tokens. -/
inductive Grant where
  | code (code : String) (original : AuthCode)
  | refresh (refreshToken : String) (original : StoredToken)
  deriving DecidableEq

/-- `GET KEYS[1]` is the value that was read. -/
def Grant.isStored (grant : Grant) (data : OAuthData) (now : Instant) : Bool :=
  match grant with
  | .code key original => data.codes.get now key == some original
  | .refresh refreshToken original => data.refreshes.get now refreshToken == some original

/-- `DEL KEYS[1]`. -/
def Grant.spend (grant : Grant) (data : OAuthData) : OAuthData :=
  match grant with
  | .code key _ => { data with codes := data.codes.del key }
  | .refresh refreshToken _ => { data with refreshes := data.refreshes.del refreshToken }

/-- `DEL KEYS[4]`, the access token that goes with a refresh token. -/
def Grant.spendAccessToken (grant : Grant) (data : OAuthData) : OAuthData :=
  match grant with
  | .code _ _ => data
  | .refresh _ original =>
    if original.accessToken = "" then data
    else { data with tokens := data.tokens.del original.accessToken }

def Grant.event (grant : Grant) (input : TokenInput) (token : StoredToken) : OAuthEvent :=
  match grant with
  | .code key _ => .exchanged key input token
  | .refresh refreshToken _ => .refreshed refreshToken token

def OAuthData.storeToken (data : OAuthData) (now : Instant) (token : StoredToken) : OAuthData :=
  { data with
    tokens := data.tokens.set token.accessToken token (expiry now TTL_TOKEN)
    refreshes :=
      if token.refreshToken = "" then data.refreshes
      else data.refreshes.set token.refreshToken token (expiry now TTL_REFRESH) }

/-- The new pair is stored, and what was given for it is deleted. -/
def OAuthData.exchange (data : OAuthData) (now : Instant) (input : TokenInput) (grant : Grant)
    (token : StoredToken) : OAuthData :=
  { grant.spendAccessToken (grant.spend (data.storeToken now token)) with
    drawn := data.drawn + 2
    history := grant.event input token :: data.history }

/-- The script: new tokens are stored for a grant that is still the one that was read. -/
def exchangeToken [OAuthEnv] (input : TokenInput) (grant : Grant)
    (next : String → String → StoredToken) : OAuthProg (Option StoredToken) :=
  let token (data : OAuthData) : StoredToken :=
    next (OAuthEnv.uuid data.drawn) (OAuthEnv.uuid (data.drawn + 1))
  commit session
    (fun data now => if grant.isStored data now then some (token data) else none)
    fun data now =>
      if grant.isStored data now then data.exchange now input grant (token data) else data

/-- The client that is stored, with its secret. -/
def RegisterInput.client [OAuthEnv] (input : RegisterInput) (redirectUris : List String)
    (method : TokenEndpointAuthMethod) (grantTypes responseTypes : List String) (drawn : Nat)
    (now : Instant) : RegisteredClient × Option String :=
  let clientSecret :=
    if method = .none then none
    else some (OAuthEnv.uuid (drawn + 1) ++ OAuthEnv.uuid (drawn + 2))
  ({
    clientId := OAuthEnv.uuid drawn
    clientSecretHash := clientSecret.map Sha256.sha256
    redirectUris
    clientName := (filled input.clientName).getD "mcp-client"
    createdAt := now
    tokenEndpointAuthMethod := method
    grantTypes
    responseTypes }, clientSecret)

def RegisterInput.register [OAuthEnv] (input : RegisterInput) :
    OAuthProg (Except OAuthError OAuthReply) :=
  (checkOauthRate session input.ip OAUTH_RATE_REGISTER "Too many registrations").andThen fun _ =>
    match normalizeRedirectUris input.redirectUris,
        parseTokenEndpointAuthMethod input.tokenEndpointAuthMethod,
        normalizeGrantTypes input.grantTypes, normalizeResponseTypes input.responseTypes with
    | some redirectUris, some method, some grantTypes, some responseTypes =>
      if input.clientName.any fun name => name = "" || 200 < utf16Length name then
        pure (.error ⟨400, "invalid_client_metadata",
          "client_name must be between 1 and 200 characters"⟩)
      else
        let client (data : OAuthData) (now : Instant) :=
          input.client redirectUris method grantTypes responseTypes data.drawn now
        commit session
          (fun data now => .ok (.registered (client data now).1 (client data now).2))
          fun data now => { data with
            drawn := data.drawn + 3
            clients := data.clients.set (client data now).1.clientId (client data now).1
              (expiry now TTL_CLIENT) }
    | _, _, _, _ =>
      pure (.error ⟨400, "invalid_client_metadata", "redirect_uris, " ++
        "token_endpoint_auth_method, grant_types and response_types must be valid"⟩)

def AuthorizeQuery.requestedScopes (query : AuthorizeQuery) : List String :=
  match filled query.scope with
  | some scope => (splitText ' ' scope).filter (· ≠ "")
  | none => ["mcp:read"]

def AuthorizeQuery.failure? [OAuthEnv] (query : AuthorizeQuery) : Option OAuthError :=
  if query.requestedScopes.isEmpty || query.requestedScopes.any (!mcpScopes.contains ·) then
    some ⟨400, "Scope invalide", ""⟩
  else if (filled query.restaurantId).any (!isRestaurantId ·) then
    some ⟨400, "Restaurant invalide", ""⟩
  else if query.resource.any (· ≠ OAuthEnv.issuer) then some ⟨400, "Ressource invalide", ""⟩
  else if (filled query.clientId).isNone || (filled query.redirectUri).isNone then
    some ⟨400, "Paramètres manquants", "client_id et redirect_uri sont requis."⟩
  else if query.responseType ≠ some "code" then
    some ⟨400, "Type non supporté", "Seul response_type=code est supporté."⟩
  else if query.codeChallengeMethod ≠ some "S256" || !query.codeChallenge.any isCodeChallenge then
    some ⟨400, "PKCE requis", "Utilisez code_challenge_method=S256."⟩
  else none

def clientName (client : Option RegisteredClient) (known : Option String)
    (clientId redirectUri : String) : Except OAuthError String :=
  match client, known with
  | none, some name => .ok name
  | none, none =>
    .error ⟨400, "Client inconnu", "Aucun client enregistré avec l'ID " ++ clientId ++ "."⟩
  | some client, _ =>
    if client.redirectUris.contains redirectUri then .ok client.clientName
    else .error ⟨400, "Redirect URI non autorisé",
      "L'URI " ++ redirectUri ++ " n'est pas enregistrée pour ce client."⟩

def missingState (known : Option String) (state : Option String) : Option OAuthError :=
  match known, filled state with
  | some name, none => some ⟨400, "Paramètre state manquant",
      "Relancez la connexion depuis " ++ name ++ " afin de générer un state valide."⟩
  | _, _ => none

def AuthorizeQuery.csrfData (query : AuthorizeQuery) (restaurantName : Option String) :
    CsrfData where
  clientId := query.clientId.getD ""
  redirectUri := query.redirectUri.getD ""
  state := query.state.getD ""
  scopes := query.requestedScopes
  codeChallenge := filled query.codeChallenge
  codeChallengeMethod := filled query.codeChallengeMethod
  restaurantId := filled query.restaurantId
  restaurantName
  resource := query.resource

/-- The consent page is shown, with a token of its own. -/
def AuthorizeQuery.showConsent [OAuthEnv] (authorize : AuthorizeQuery) (clientName : String)
    (restaurantName : Option String) : OAuthProg (Except OAuthError OAuthReply) :=
  commit session
    (fun data _ => .ok (.consentPage {
      clientName
      clientId := authorize.clientId.getD ""
      redirectUri := authorize.redirectUri.getD ""
      state := authorize.state.getD ""
      scope := " ".intercalate authorize.requestedScopes
      restaurantName
      resource := authorize.resource
      codeChallenge := authorize.codeChallenge.getD ""
      codeChallengeMethod := authorize.codeChallengeMethod.getD ""
      csrfToken := OAuthEnv.uuid data.drawn }))
    fun data now => { data with
      drawn := data.drawn + 1
      csrf := data.csrf.set (OAuthEnv.uuid data.drawn) (authorize.csrfData restaurantName)
        (expiry now TTL_CODE)
      history := .requested (OAuthEnv.uuid data.drawn) authorize :: data.history }

def anyMcp (restaurantId : Option Id) (data : OAuthData) : Bool :=
  data.exposures.any fun exposure =>
    exposure.mcpEnabled && restaurantId.all (exposure.restaurantId == ·)

def AuthorizeQuery.authorize [OAuthEnv] (authorize : AuthorizeQuery) :
    OAuthProg (Except OAuthError OAuthReply) :=
  match authorize.failure? with
  | some error => pure (.error error)
  | none =>
    let clientId := authorize.clientId.getD ""
    let redirectUri := authorize.redirectUri.getD ""
    let restaurantId := filled authorize.restaurantId
    getClient clientId >>= fun client =>
      match clientName client (matchKnownRedirect redirectUri) clientId redirectUri with
      | .error error => pure (.error error)
      | .ok name =>
        match missingState (matchKnownRedirect redirectUri) authorize.state with
        | some error => pure (.error error)
        | none =>
          query (fun data _ => anyMcp restaurantId data) >>= fun
            | false => pure (.error ⟨400, "Aucun restaurant MCP",
                "Aucun restaurant n'a MCP activé. " ++
                  "Activez MCP dans le dashboard Suppernote d'abord."⟩)
            | true =>
              match restaurantId with
              | none => authorize.showConsent session name none
              | some restaurantId =>
                query (fun (data : OAuthData) _ =>
                    data.restaurants.find? (·.id == restaurantId)) >>= fun restaurant =>
                  if restaurant.any McpRestaurant.agenticOptIn then
                    authorize.showConsent session name (restaurant.map McpRestaurant.name)
                  else pure (.error ⟨400, "Restaurant indisponible", ""⟩)

/-- The form says something else than what the page was shown for. -/
def ConsentInput.isInconsistent (input : ConsentInput) (csrfData : CsrfData) : Bool :=
  differs input.clientId csrfData.clientId ||
    differs input.redirectUri csrfData.redirectUri ||
    differs input.state csrfData.state ||
    differs input.scope (" ".intercalate csrfData.scopes) ||
    (filled input.restaurantId).any (fun id => some id ≠ csrfData.restaurantId) ||
    (input.resource.isSome && input.resource ≠ csrfData.resource) ||
    (filled input.codeChallenge).any (fun challenge => some challenge ≠ csrfData.codeChallenge) ||
    (filled input.codeChallengeMethod).any (fun method =>
      some method ≠ csrfData.codeChallengeMethod)

def CsrfData.authCode (csrfData : CsrfData) : AuthCode where
  clientId := csrfData.clientId
  restaurantId := csrfData.restaurantId
  restaurantName := csrfData.restaurantName
  scopes := csrfData.scopes
  redirectUri := csrfData.redirectUri
  resource := csrfData.resource
  codeChallenge := csrfData.codeChallenge
  codeChallengeMethod := csrfData.codeChallengeMethod

def stateParameter (state : String) : List (String × String) :=
  if state = "" then [] else [("state", state)]

/-- The code is stored and sent to the client. -/
def CsrfData.issueCode [OAuthEnv] (csrfData : CsrfData) (csrfToken : String) :
    OAuthProg (Except OAuthError OAuthReply) :=
  commit session
    (fun data _ =>
      if csrfData.redirectUri = "" then .error ⟨400, "Redirect URI manquant", ""⟩
      else .ok (.redirect csrfData.redirectUri
        (("code", OAuthEnv.uuid data.drawn) :: stateParameter csrfData.state ++
          [("iss", OAuthEnv.issuer)])))
    fun data now => { data with
      drawn := data.drawn + 1
      codes := data.codes.set (OAuthEnv.uuid data.drawn) csrfData.authCode (expiry now TTL_CODE)
      history := .consented csrfToken (OAuthEnv.uuid data.drawn) :: data.history }

def CsrfData.deny [OAuthEnv] (csrfData : CsrfData) : Except OAuthError OAuthReply :=
  if csrfData.redirectUri = "" then .error ⟨400, "Redirect URI manquant", ""⟩
  else .ok (.redirect csrfData.redirectUri
    ([("error", "access_denied"), ("error_description", "User denied access")] ++
      stateParameter csrfData.state ++ [("iss", OAuthEnv.issuer)]))

def postClientFailure? (client : Option RegisteredClient) (redirectUri : String) :
    Option OAuthError :=
  match client with
  | none =>
    if ((filled (some redirectUri)).bind matchKnownRedirect).isNone then
      some ⟨400, "Client inconnu", "Client non trouvé."⟩
    else none
  | some client =>
    if redirectUri = "" || !client.redirectUris.contains redirectUri then
      some ⟨400, "Redirect URI invalide", ""⟩
    else none

def ConsentInput.consent [OAuthEnv] (input : ConsentInput) :
    OAuthProg (Except OAuthError OAuthReply) :=
  match filled input.csrfToken with
  | none =>
    pure (.error ⟨403, "Token CSRF manquant", "Veuillez recharger la page de consentement."⟩)
  | some csrfToken =>
    query (fun (data : OAuthData) now => data.csrf.get now csrfToken) >>= fun
      | none => pure (.error ⟨403, "Token CSRF invalide",
          "Le token de consentement a expiré. Veuillez recharger la page."⟩)
      | some csrfData =>
        command session (fun data _ => { data with csrf := data.csrf.del csrfToken }) >>=
          fun _ =>
        if input.isInconsistent csrfData then
          pure (.error ⟨403, "Incohérence CSRF",
            "Les paramètres ne correspondent pas au token de consentement."⟩)
        else getClient csrfData.clientId >>= fun postClient =>
          match postClientFailure? postClient csrfData.redirectUri with
          | some error => pure (.error error)
          | none =>
            match missingState
                ((filled (some csrfData.redirectUri)).bind matchKnownRedirect)
                (some csrfData.state) with
            | some error => pure (.error error)
            | none =>
              if input.action = some "deny" then pure csrfData.deny
              else if csrfData.clientId = "" then
                pure (.error ⟨400, "Client manquant", "client_id requis."⟩)
              else csrfData.issueCode session csrfToken

def StoredToken.response (token : StoredToken) (supportsRefreshToken : Bool) : TokenResponse where
  accessToken := token.accessToken
  expiresIn := TTL_TOKEN
  refreshToken := if supportsRefreshToken then some token.refreshToken else none
  scope := " ".intercalate token.scopes

/-- What is wrong with the request for a code that was found. -/
def TokenInput.codeFailure? [OAuthEnv] (input : TokenInput) (clientId : String)
    (authCode : AuthCode) : Option OAuthError :=
  if authCode.clientId ≠ clientId then
    some ⟨400, "invalid_grant", "Code was issued to a different client"⟩
  else if input.resource ≠ authCode.resource then
    some ⟨400, "invalid_target", "resource must match the authorization request"⟩
  else if (filled input.redirectUri).isNone || input.redirectUri ≠ some authCode.redirectUri then
    some ⟨400, "invalid_grant", "redirect_uri mismatch"⟩
  else if (filled authCode.codeChallenge).isSome then
    match filled input.codeVerifier with
    | none => some ⟨400, "invalid_grant", "code_verifier required (PKCE)"⟩
    | some codeVerifier =>
      if verifyPkce codeVerifier authCode.codeChallenge authCode.codeChallengeMethod then none
      else some ⟨400, "invalid_grant", "PKCE verification failed"⟩
  else none

def TokenInput.exchangeCode [OAuthEnv] (input : TokenInput) (clientId : String)
    (client : Option RegisteredClient) : OAuthProg (Except OAuthError OAuthReply) :=
  match filled input.code with
  | none => pure (.error ⟨400, "invalid_request", "code required"⟩)
  | some code =>
    query (fun (data : OAuthData) now => data.codes.get now code) >>= fun
      | none => pure (.error ⟨400, "invalid_grant", "Invalid or expired code"⟩)
      | some authCode =>
        match input.codeFailure? clientId authCode with
        | some error => pure (.error error)
        | none =>
          let supportsRefreshToken :=
            client.all fun client => client.grantTypes.contains "refresh_token"
          let next (accessToken refreshToken : String) : StoredToken := {
            clientId
            restaurantId := authCode.restaurantId
            restaurantName := authCode.restaurantName
            scopes := authCode.scopes
            resource := some (authCode.resource.getD OAuthEnv.issuer)
            accessToken
            refreshToken := if supportsRefreshToken then refreshToken else "" }
          exchangeToken session input (.code code authCode) next >>= fun
            | none => pure (.error ⟨400, "invalid_grant", "Code already used"⟩)
            | some token => pure (.ok (.tokens (token.response supportsRefreshToken)))

def TokenInput.exchangeRefresh [OAuthEnv] (input : TokenInput) (clientId : String)
    (client : Option RegisteredClient) : OAuthProg (Except OAuthError OAuthReply) :=
  if client.any fun client => !client.grantTypes.contains "refresh_token" then
    pure (.error ⟨400, "unsupported_grant_type",
      "refresh_token is not enabled for this client"⟩)
  else
    match filled input.refreshToken with
    | none => pure (.error ⟨400, "invalid_request", "refresh_token required"⟩)
    | some refreshToken =>
      getRefresh refreshToken >>= fun
        | none => pure (.error ⟨400, "invalid_grant", "Invalid or expired refresh token"⟩)
        | some oldToken =>
          let refreshResource := oldToken.resource.getD OAuthEnv.issuer
          if oldToken.clientId ≠ clientId then
            pure (.error ⟨400, "invalid_grant", "Refresh token client mismatch"⟩)
          else if input.resource.any (· ≠ refreshResource) then
            pure (.error ⟨400, "invalid_target", "resource must match the refresh token"⟩)
          else
            let next (accessToken refreshToken : String) : StoredToken :=
              { oldToken with resource := some refreshResource, accessToken, refreshToken }
            exchangeToken session input (.refresh refreshToken oldToken) next >>= fun
              | none => pure (.error ⟨400, "invalid_grant", "Refresh token already used"⟩)
              | some token => pure (.ok (.tokens (token.response true)))

/-- Who the client says it is is checked against its registration, if it has one. -/
def authenticate [OAuthEnv] (input : CredentialsInput) :
    OAuthProg (Except OAuthError (String × Option RegisteredClient)) :=
  let credentials := input.extractClientCredentials
  match filled credentials.clientId with
  | none => pure (.error ⟨401, "invalid_client", "client_id required"⟩)
  | some clientId =>
    getClient clientId >>= fun client =>
      if isValidClientAuthentication client credentials then pure (.ok (clientId, client))
      else pure (.error ⟨401, "invalid_client", "Client authentication failed"⟩)

def TokenInput.exchange [OAuthEnv] (input : TokenInput) :
    OAuthProg (Except OAuthError OAuthReply) :=
  (checkOauthRate session input.ip OAUTH_RATE_TOKEN "Too many token requests").andThen fun _ =>
    (authenticate input.credentials).andThen fun client =>
      match input.grantType with
      | some "authorization_code" => input.exchangeCode session client.1 client.2
      | some "refresh_token" => input.exchangeRefresh session client.1 client.2
      | grantType => pure (.error ⟨400, "unsupported_grant_type",
          "grant_type " ++ grantType.getD "undefined" ++ " not supported"⟩)

/-- `redisCache.del` of a pair, which is one command. -/
def deleteStoredTokenPair (token : StoredToken) : OAuthProg Unit :=
  command session fun data _ => { data with
    tokens := data.tokens.del token.accessToken
    refreshes := data.refreshes.del token.refreshToken }

def deleteToken (token : String) : OAuthProg Unit :=
  command session (fun data _ => { data with tokens := data.tokens.del token }) >>= fun _ =>
    command session fun data _ => { data with refreshes := data.refreshes.del token }

/-- An access token, or else a refresh token. -/
def findToken (token : String) : OAuthProg (Option StoredToken) :=
  getToken token >>= fun
    | some tokenData => pure (some tokenData)
    | none => getRefresh token

/-- Unknown tokens and those of others are left alone. -/
def revokeToken (clientId token : String) : OAuthProg (Except OAuthError OAuthReply) :=
  findToken token >>= fun
    | none => pure (.ok .revoked)
    | some tokenData =>
      if tokenData.clientId ≠ clientId then pure (.ok .revoked)
      else if tokenData.accessToken ≠ "" ∧ tokenData.refreshToken ≠ "" then
        deleteStoredTokenPair session tokenData >>= fun _ => pure (.ok .revoked)
      else deleteToken session token >>= fun _ => pure (.ok .revoked)

def RevokeInput.revoke [OAuthEnv] (input : RevokeInput) :
    OAuthProg (Except OAuthError OAuthReply) :=
  (checkOauthRate session input.ip OAUTH_RATE_REVOKE "Too many revocation requests").andThen
    fun _ => (authenticate input.credentials).andThen fun client =>
      match filled input.token with
      | none => pure (.ok .revoked)
      | some token => revokeToken session client.1 token

inductive OAuthCall where
  | register (input : RegisterInput)
  | authorize (query : AuthorizeQuery)
  | consent (input : ConsentInput)
  | token (input : TokenInput)
  | revoke (input : RevokeInput)

def OAuthCall.prog [OAuthEnv] : OAuthCall → OAuthProg (Except OAuthError OAuthReply)
  | .register input => input.register session
  | .authorize query => query.authorize session
  | .consent input => input.consent session
  | .token input => input.exchange session
  | .revoke input => input.revoke session

def oauthSystem [OAuthEnv] (calls : OAuthSession → OAuthCall) :
    System OAuthSession OAuthStore (Except OAuthError OAuthReply) :=
  system fun session => (calls session).prog session

/-- Clients may be registered and restaurants exposed, and nothing is authorized yet. -/
def oauthStart (clients : ExpiringKeys String RegisteredClient)
    (exposures : List ExposureSettings) (restaurants : List McpRestaurant) (now : Instant) :
    OAuthStore where
  data := {
    drawn := 0
    clients
    csrf := .empty
    codes := .empty
    tokens := .empty
    refreshes := .empty
    rates := .empty
    exposures
    restaurants
    history := [] }
  now
  owner _ := none

/-- `validateOAuthToken` accepts an access token and says whose it is. -/
def validateOAuthToken [OAuthEnv] (token : String) (data : OAuthData) (now : Instant) :
    Option StoredToken :=
  (data.tokens.get now token).filter fun stored => stored.resource.all (· == OAuthEnv.issuer)

end Sokar.OAuth
