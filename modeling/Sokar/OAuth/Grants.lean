import Sokar.Library.StepRelations
import Sokar.OAuth.Endpoints

/-!
# From consent to tokens

A token goes back to the code it was issued from, the code to a consent and the consent to a
request.  Whatever requests run in whatever order, codes and refresh tokens are spent once, and one
pair of tokens at a time comes from each code: the command that stores a pair checks that what is
given for it is still there, and deletes it.
-/

namespace Sokar.OAuth

open Process Transaction

/-- The tokens that an event hands out. -/
def OAuthEvent.token? : OAuthEvent → Option StoredToken
  | .exchanged _ _ token => some token
  | .refreshed _ token => some token
  | _ => none

def OAuthEvent.spent? : OAuthEvent → Option (String ⊕ String)
  | .exchanged code _ _ => some (.inl code)
  | .refreshed refreshToken _ => some (.inr refreshToken)
  | _ => none

inductive IssuedFrom (history : List OAuthEvent) (code : String) : StoredToken → Prop where
  | exchanged (input : TokenInput) (token : StoredToken)
      (event : .exchanged code input token ∈ history) : IssuedFrom history code token
  | refreshed (old token : StoredToken) (chain : IssuedFrom history code old)
      (event : .refreshed old.refreshToken token ∈ history) : IssuedFrom history code token

def Issued (history : List OAuthEvent) (token : StoredToken) : Prop :=
  ∃ event ∈ history, event.token? = some token

variable {history history' : List OAuthEvent} {code : String} {token other : StoredToken}
  {data data' : OAuthData} {now : Instant} {input : TokenInput} {grant : Grant}

theorem IssuedFrom.mono (chain : IssuedFrom history code token) (grows : history ⊆ history') :
    IssuedFrom history' code token := by
  induction chain with
  | exchanged input token event => exact .exchanged input token (grows event)
  | refreshed old token _ event ih => exact .refreshed old token ih (grows event)

theorem IssuedFrom.issued (chain : IssuedFrom history code token) : Issued history token := by
  cases chain with
  | exchanged input token event => exact ⟨_, event, rfl⟩
  | refreshed old token _ event => exact ⟨_, event, rfl⟩

theorem Issued.mono (issued : Issued history token) (grows : history ⊆ history') :
    Issued history' token := by
  obtain ⟨event, isEvent, hands⟩ := issued
  exact ⟨event, grows isEvent, hands⟩

theorem IssuedFrom.first (chain : IssuedFrom history code token) :
    ∃ input first, OAuthEvent.exchanged code input first ∈ history := by
  induction chain with
  | exchanged input token event => exact ⟨input, token, event⟩
  | refreshed _ _ _ _ ih => exact ih

variable {event : OAuthEvent}

theorem IssuedFrom.of_cons (chain : IssuedFrom (event :: history) code token)
    (hands : event.token? = none) : IssuedFrom history code token := by
  induction chain with
  | exchanged input token isEvent =>
    rcases List.mem_cons.1 isEvent with same | earlier
    · cases same ▸ hands
    · exact .exchanged input token earlier
  | refreshed old token _ isEvent ih =>
    rcases List.mem_cons.1 isEvent with same | earlier
    · cases same ▸ hands
    · exact .refreshed old token ih earlier

/-- The event that hands out the tokens is about the code, or about tokens of its chain. -/
inductive Extends (history : List OAuthEvent) (code : String) : OAuthEvent → Prop where
  | exchanged (input : TokenInput) (token : StoredToken) :
      Extends history code (.exchanged code input token)
  | refreshed (old token : StoredToken) (chain : IssuedFrom history code old) :
      Extends history code (.refreshed old.refreshToken token)

theorem IssuedFrom.of_event {added : StoredToken}
    (chain : IssuedFrom (event :: history) code token) (hands : event.token? = some added)
    (unspent : ∀ token, .refreshed added.refreshToken token ∉ event :: history) :
    IssuedFrom history code token ∨ token = added ∧ Extends history code event := by
  induction chain with
  | exchanged input token isEvent =>
    rcases List.mem_cons.1 isEvent with same | earlier
    · subst same
      exact .inr ⟨Option.some.inj hands, .exchanged input token⟩
    · exact .inl (.exchanged input token earlier)
  | refreshed old token _ isEvent ih =>
    rcases ih with chain | ⟨rfl, -⟩
    · rcases List.mem_cons.1 isEvent with same | earlier
      · subst same
        exact .inr ⟨Option.some.inj hands, .refreshed old token chain⟩
      · exact .inl (.refreshed old token chain earlier)
    · exact absurd isEvent (unspent token)

theorem issued_of_cons (issued : Issued (event :: history) token) (hands : event.token? = none) :
    Issued history token := by
  obtain ⟨other, isEvent, same⟩ := issued
  rcases List.mem_cons.1 isEvent with isFirst | earlier
  · cases hands.symm.trans (isFirst ▸ same)
  · exact ⟨other, earlier, same⟩

/-- A pair of tokens is there, or what is left of it. -/
def OAuthData.Stored (data : OAuthData) (token : StoredToken) : Prop :=
  (∃ expiresAt, data.tokens token.accessToken = some (token, expiresAt)) ∨
    ∃ expiresAt, data.refreshes token.refreshToken = some (token, expiresAt)

/-- Something was deleted, and identifiers may have been drawn. -/
structure OAuthData.Fewer (data data' : OAuthData) : Prop where
  drawn : data.drawn ≤ data'.drawn
  history : data'.history = data.history
  csrf : ∀ key entry, data'.csrf key = some entry → data.csrf key = some entry
  codes : data'.codes = data.codes
  tokens : ∀ key entry, data'.tokens key = some entry → data.tokens key = some entry
  refreshes : ∀ key entry, data'.refreshes key = some entry → data.refreshes key = some entry

theorem OAuthData.Fewer.refl (data : OAuthData) : data.Fewer data where
  drawn := le_rfl
  history := rfl
  csrf _ _ stored := stored
  codes := rfl
  tokens _ _ stored := stored
  refreshes _ _ stored := stored

theorem OAuthData.Fewer.stored (fewer : data.Fewer data') (stored : data'.Stored token) :
    data.Stored token := by
  rcases stored with ⟨expiresAt, isStored⟩ | ⟨expiresAt, isStored⟩
  · exact .inl ⟨expiresAt, fewer.tokens _ _ isStored⟩
  · exact .inr ⟨expiresAt, fewer.refreshes _ _ isStored⟩

variable {key : String}

section

variable {entry : StoredToken × Int}

/-- What is there after a pair was stored belongs to it, or was there before. -/
theorem tokens_storeToken (stored : (data.storeToken now token).tokens key = some entry) :
    key = token.accessToken ∧ entry.1 = token ∨ data.tokens key = some entry := by
  rcases ExpiringKeys.of_set stored with ⟨isKey, isEntry⟩ | ⟨-, before⟩
  · exact .inl ⟨isKey, isEntry ▸ rfl⟩
  · exact .inr before

theorem refreshes_storeToken (stored : (data.storeToken now token).refreshes key = some entry) :
    (key = token.refreshToken ∧ token.refreshToken ≠ "") ∧ entry.1 = token ∨
      data.refreshes key = some entry := by
  unfold OAuthData.storeToken at stored
  split at stored
  · exact .inr stored
  next given =>
    rcases ExpiringKeys.of_set stored with ⟨isKey, isEntry⟩ | ⟨-, before⟩
    · exact .inl ⟨⟨isKey, given⟩, isEntry ▸ rfl⟩
    · exact .inr before

/-- What is given for a pair is not among what is left. -/
structure Grant.Spends (grant : Grant) (token : StoredToken) : Prop where
  other : ∀ refreshToken old, grant = .refresh refreshToken old →
    old.refreshToken = refreshToken → old.accessToken ≠ "" → token ≠ old

theorem tokens_exchange (stored : (data.exchange now input grant token).tokens key = some entry) :
    (data.storeToken now token).tokens key = some entry ∧
      (entry.1.accessToken = key → grant.Spends entry.1) := by
  cases grant with
  | code code original =>
    exact ⟨stored, fun _ => ⟨fun _ _ impossible => nomatch impossible⟩⟩
  | refresh refreshToken original =>
    unfold OAuthData.exchange Grant.spendAccessToken at stored
    dsimp only at stored
    by_cases empty : original.accessToken = ""
    · rw [if_pos empty] at stored
      refine ⟨stored, fun _ => ⟨fun _ old same _ given => ?_⟩⟩
      cases same
      exact absurd empty given
    · rw [if_neg empty] at stored
      obtain ⟨isOther, before⟩ := ExpiringKeys.of_del stored
      refine ⟨before, fun isKey => ⟨fun _ old same _ _ isOld => isOther ?_⟩⟩
      cases same
      rw [← isKey, isOld]

theorem refreshes_exchange
    (stored : (data.exchange now input grant token).refreshes key = some entry) :
    (data.storeToken now token).refreshes key = some entry ∧
      (entry.1.refreshToken = key → grant.Spends entry.1) := by
  cases grant with
  | code code original =>
    exact ⟨stored, fun _ => ⟨fun _ _ impossible => nomatch impossible⟩⟩
  | refresh refreshToken original =>
    have isDeleted : ((data.storeToken now token).refreshes.del refreshToken) key = some entry := by
      rw [← stored]
      unfold OAuthData.exchange Grant.spendAccessToken
      dsimp only
      split <;> rfl
    obtain ⟨isOther, before⟩ := ExpiringKeys.of_del isDeleted
    refine ⟨before, fun isKey => ⟨fun _ old same isRefresh _ isOld => isOther ?_⟩⟩
    cases same
    rw [← isKey, isOld, isRefresh]

end

theorem codes_exchange {entry : AuthCode × Int}
    (stored : (data.exchange now input grant token).codes key = some entry) :
    data.codes key = some entry ∧ (∀ original, grant ≠ .code key original) := by
  cases grant with
  | code code original =>
    obtain ⟨isOther, before⟩ := ExpiringKeys.of_del stored
    refine ⟨before, fun _ same => isOther ?_⟩
    cases same
    rfl
  | refresh refreshToken original =>
    have same : (data.exchange now input (.refresh refreshToken original) token).codes =
        data.codes := by
      unfold OAuthData.exchange Grant.spendAccessToken
      dsimp only
      split <;> rfl
    exact ⟨same ▸ stored, fun _ impossible => nomatch impossible⟩

theorem csrf_exchange : (data.exchange now input grant token).csrf = data.csrf := by
  cases grant with
  | code code original => rfl
  | refresh refreshToken original =>
    unfold OAuthData.exchange Grant.spendAccessToken
    dsimp only
    split <;> rfl

/-- What is left of a pair after an exchange is of the new one, or was there before and was not
given for it. -/
theorem stored_exchange {other : StoredToken}
    (stored : (data.exchange now input grant token).Stored other) :
    other = token ∨ data.Stored other ∧ grant.Spends other := by
  rcases stored with ⟨expiresAt, isStored⟩ | ⟨expiresAt, isStored⟩
  · obtain ⟨isStored, spends⟩ := tokens_exchange isStored
    rcases tokens_storeToken isStored with ⟨-, same⟩ | before
    · exact .inl same
    · exact .inr ⟨.inl ⟨expiresAt, before⟩, spends rfl⟩
  · obtain ⟨isStored, spends⟩ := refreshes_exchange isStored
    rcases refreshes_storeToken isStored with ⟨-, same⟩ | before
    · exact .inl same
    · exact .inr ⟨.inr ⟨expiresAt, before⟩, spends rfl⟩

theorem filled_isSome {text : Option String} (given : (filled text).isNone = false) :
    ∃ value, text = some value ∧ value ≠ "" := by
  cases text with
  | none => cases given
  | some value =>
    refine ⟨value, rfl, fun empty => ?_⟩
    subst empty
    cases given

section

variable [OAuthEnv]

/-- The token is for the client, the restaurant, the scopes and the resource of the request, or for
the issuer when the request names no resource. -/
structure AuthorizeQuery.Covers (query : AuthorizeQuery) (token : StoredToken) : Prop where
  client : query.clientId = some token.clientId
  restaurant : token.restaurantId = filled query.restaurantId
  scopes : token.scopes = query.requestedScopes
  resource : token.resource = some (query.resource.getD OAuthEnv.issuer)

/-- The caller gave the redirect URI of the request and a verifier of its challenge. -/
structure AuthorizeQuery.Presented (query : AuthorizeQuery) (input : TokenInput) : Prop where
  redirectUri : input.redirectUri = query.redirectUri
  verifier : ∃ verifier, input.codeVerifier = some verifier ∧
    query.codeChallenge = some (OAuthEnv.sha256Base64url verifier)

structure Consented (history : List OAuthEvent) (code csrfToken : String)
    (query : AuthorizeQuery) : Prop where
  requested : .requested csrfToken query ∈ history
  consented : .consented csrfToken code ∈ history

structure Authorized (history : List OAuthEvent) (token : StoredToken) (code csrfToken : String)
    (query : AuthorizeQuery) (input : TokenInput) (first : StoredToken) : Prop where
  consented : Consented history code csrfToken query
  exchanged : .exchanged code input first ∈ history
  issued : IssuedFrom history code token
  covers : query.Covers token
  presented : query.Presented input

/-- What the checks of a request ensure. -/
structure AuthorizeQuery.Checked (query : AuthorizeQuery) : Prop where
  client : ∃ clientId, query.clientId = some clientId
  redirectUri : ∃ redirectUri, query.redirectUri = some redirectUri
  challenge : ∃ challenge, query.codeChallenge = some challenge ∧ challenge ≠ ""

theorem AuthorizeQuery.checked {query : AuthorizeQuery} (passes : query.failure? = none) :
    query.Checked := by
  unfold AuthorizeQuery.failure? at passes
  split at passes
  · cases passes
  split at passes
  · cases passes
  split at passes
  · cases passes
  split at passes
  · cases passes
  next given =>
    split at passes
    · cases passes
    split at passes
    · cases passes
    next proves =>
      simp only [Bool.or_eq_true, not_or, Bool.not_eq_true] at given proves
      obtain ⟨clientId, isClient, -⟩ := filled_isSome given.1
      obtain ⟨redirectUri, isUri, -⟩ := filled_isSome given.2
      refine ⟨⟨clientId, isClient⟩, ⟨redirectUri, isUri⟩, ?_⟩
      have isChallenge := proves.2
      rw [Bool.not_eq_false', Option.any_eq_true] at isChallenge
      obtain ⟨challenge, given, isChallenge⟩ := isChallenge
      refine ⟨challenge, given, fun empty => ?_⟩
      subst empty
      cases isChallenge

/-- The page was shown for the request. -/
def Requested (history : List OAuthEvent) (csrfToken : String) (csrfData : CsrfData) : Prop :=
  ∃ query name, .requested csrfToken query ∈ history ∧ query.failure? = none ∧
    csrfData = query.csrfData name

theorem Requested.mono {csrfToken : String} {csrfData : CsrfData}
    (requested : Requested history csrfToken csrfData) (grows : history ⊆ history') :
    Requested history' csrfToken csrfData := by
  obtain ⟨query, name, event, passes, same⟩ := requested
  exact ⟨query, name, grows event, passes, same⟩

/-- The identifier was drawn before. -/
def OAuthData.Drawn (data : OAuthData) (id : String) : Prop :=
  ∃ drawn < data.drawn, id = OAuthEnv.uuid drawn

theorem OAuthData.Drawn.ne_empty {data : OAuthData} {id : String} (drawn : data.Drawn id) :
    id ≠ "" := by
  obtain ⟨_, -, rfl⟩ := drawn
  exact OAuthEnv.uuid_ne_empty _

theorem OAuthData.Drawn.ne_uuid {data : OAuthData} {id : String} (drawn : data.Drawn id) {next : Nat}
    (isNext : data.drawn ≤ next) : id ≠ OAuthEnv.uuid next := by
  obtain ⟨earlier, isEarlier, rfl⟩ := drawn
  intro same
  have := OAuthEnv.uuid_injective same
  omega

/-- What holds of identifiers, stored values and the history in every run. -/
structure OAuthData.Sound (data : OAuthData) : Prop where
  consentedDrawn : ∀ csrfToken code, .consented csrfToken code ∈ data.history → data.Drawn code
  issuedDrawn : ∀ token, Issued data.history token → data.Drawn token.accessToken ∧
    (token.refreshToken = "" ∨ data.Drawn token.refreshToken)
  issuedFrom : ∀ token, Issued data.history token → ∃ code, IssuedFrom data.history code token
  exchanged : ∀ code input token, .exchanged code input token ∈ data.history →
    ∃ csrfToken query, Consented data.history code csrfToken query ∧ query.Covers token ∧
      query.Presented input
  refreshed : ∀ refreshToken token, .refreshed refreshToken token ∈ data.history →
    refreshToken ≠ "" ∧ ∃ old, Issued data.history old ∧ old.refreshToken = refreshToken ∧
      ∀ query : AuthorizeQuery, query.Covers old → query.Covers token
  pairs : ∀ token other, Issued data.history token → Issued data.history other →
    token.refreshToken = other.refreshToken → token.refreshToken ≠ "" → token = other
  access : ∀ token other, Issued data.history token → Issued data.history other →
    token.accessToken = other.accessToken → token = other
  apart : ∀ token other, Issued data.history token → Issued data.history other →
    token.accessToken ≠ other.refreshToken
  spentOnce : (data.history.filterMap OAuthEvent.spent?).Nodup
  csrf : ∀ csrfToken entry, data.csrf csrfToken = some entry →
    Requested data.history csrfToken entry.1
  codes : ∀ code entry, data.codes code = some entry →
    (∀ input token, .exchanged code input token ∉ data.history) ∧
      ∃ csrfToken csrfData, .consented csrfToken code ∈ data.history ∧
        Requested data.history csrfToken csrfData ∧ entry.1 = csrfData.authCode
  tokens : ∀ accessToken entry, data.tokens accessToken = some entry →
    entry.1.accessToken = accessToken ∧ Issued data.history entry.1
  refreshes : ∀ refreshToken entry, data.refreshes refreshToken = some entry →
    entry.1.refreshToken = refreshToken ∧ refreshToken ≠ "" ∧ Issued data.history entry.1
  unspent : ∀ token, data.Stored token →
    ∀ next, .refreshed token.refreshToken next ∉ data.history
  single : ∀ code token other, data.Stored token → data.Stored other →
    IssuedFrom data.history code token → IssuedFrom data.history code other → token = other

theorem OAuthData.Sound.issued_of_stored (sound : data.Sound) (stored : data.Stored token) :
    Issued data.history token := by
  rcases stored with ⟨expiresAt, isStored⟩ | ⟨expiresAt, isStored⟩
  · exact (sound.tokens _ _ isStored).2
  · exact (sound.refreshes _ _ isStored).2.2

/-- Every token issued comes from a request that was consented to. -/
theorem OAuthData.Sound.authorized (sound : data.Sound) (issued : Issued data.history token) :
    ∃ code csrfToken query input first,
      Authorized data.history token code csrfToken query input first := by
  obtain ⟨code, chain⟩ := sound.issuedFrom token issued
  suffices covered : ∀ token, IssuedFrom data.history code token →
      ∃ csrfToken query input first, Consented data.history code csrfToken query ∧
        .exchanged code input first ∈ data.history ∧ query.Covers token ∧
          query.Presented input by
    obtain ⟨csrfToken, query, input, first, consented, event, covers, presented⟩ :=
      covered token chain
    exact ⟨code, csrfToken, query, input, first, consented, event, chain, covers, presented⟩
  intro token chain
  induction chain with
  | exchanged input token event =>
    obtain ⟨csrfToken, query, consented, covers, presented⟩ := sound.exchanged _ _ _ event
    exact ⟨csrfToken, query, input, token, consented, event, covers, presented⟩
  | refreshed old token chain event ih =>
    obtain ⟨csrfToken, query, input, first, consented, exchanged, covers, presented⟩ := ih
    obtain ⟨notEmpty, same, isSame, sameToken, carries⟩ := sound.refreshed _ _ event
    have isOld := sound.pairs same old isSame chain.issued sameToken (sameToken ▸ notEmpty)
    exact ⟨csrfToken, query, input, first, consented, exchanged,
      carries query (isOld ▸ covers), presented⟩

theorem OAuthData.Drawn.mono {id : String} (drawn : data.Drawn id)
    (more : data.drawn ≤ data'.drawn) : data'.Drawn id := by
  obtain ⟨number, isDrawn, same⟩ := drawn
  exact ⟨number, lt_of_lt_of_le isDrawn more, same⟩

theorem OAuthData.Sound.fewer (sound : data.Sound) (fewer : data.Fewer data') : data'.Sound := by
  have isHistory := fewer.history
  constructor
  case consentedDrawn =>
    intro csrfToken code event
    exact (sound.consentedDrawn _ _ (isHistory ▸ event)).mono fewer.drawn
  case issuedDrawn =>
    intro token issued
    obtain ⟨access, refresh⟩ := sound.issuedDrawn token (isHistory ▸ issued)
    exact ⟨access.mono fewer.drawn, refresh.imp_right fun drawn => drawn.mono fewer.drawn⟩
  case issuedFrom => exact isHistory ▸ sound.issuedFrom
  case exchanged => exact isHistory ▸ sound.exchanged
  case refreshed => exact isHistory ▸ sound.refreshed
  case pairs => exact isHistory ▸ sound.pairs
  case access => exact isHistory ▸ sound.access
  case apart => exact isHistory ▸ sound.apart
  case spentOnce => exact isHistory ▸ sound.spentOnce
  case csrf => exact fun key entry stored => isHistory ▸ sound.csrf key entry (fewer.csrf _ _ stored)
  case codes => exact fewer.codes ▸ isHistory ▸ sound.codes
  case tokens =>
    exact fun key entry stored => isHistory ▸ sound.tokens key entry (fewer.tokens _ _ stored)
  case refreshes =>
    exact fun key entry stored => isHistory ▸ sound.refreshes key entry (fewer.refreshes _ _ stored)
  case unspent => exact fun token stored => isHistory ▸ sound.unspent token (fewer.stored stored)
  case single =>
    intro code token other stored storedOther chain chainOther
    exact sound.single code token other (fewer.stored stored) (fewer.stored storedOther)
      (isHistory ▸ chain) (isHistory ▸ chainOther)

theorem OAuthData.Sound.noted (sound : data.Sound) (event : OAuthEvent) {drawn : Nat}
    {csrf : ExpiringKeys String CsrfData} {codes : ExpiringKeys String AuthCode}
    (hands : event.token? = none) (spends : event.spent? = none) (more : data.drawn ≤ drawn)
    (isData : data' = { data with drawn, csrf, codes, history := event :: data.history })
    (consented : ∀ csrfToken code, event = .consented csrfToken code → data'.Drawn code)
    (isCsrf : ∀ key entry, csrf key = some entry → Requested (event :: data.history) key entry.1)
    (isCodes : ∀ key entry, codes key = some entry →
      (∀ input token, .exchanged key input token ∉ data.history) ∧
        ∃ csrfToken csrfData, .consented csrfToken key ∈ event :: data.history ∧
          Requested (event :: data.history) csrfToken csrfData ∧ entry.1 = csrfData.authCode) :
    data'.Sound := by
  have grows : data.history ⊆ event :: data.history := List.subset_cons_self _ _
  have notFirst : ∀ other : OAuthEvent, other ∈ event :: data.history →
      other.spent? ≠ none → other ∈ data.history := by
    intro other isEvent spent
    rcases List.mem_cons.1 isEvent with rfl | earlier
    · exact absurd spends spent
    · exact earlier
  have isDrawn : data.drawn ≤ data'.drawn := isData ▸ more
  constructor
  case consentedDrawn =>
    intro csrfToken code isEvent
    rw [isData] at isEvent
    rcases List.mem_cons.1 isEvent with same | earlier
    · exact consented csrfToken code same.symm
    · exact (sound.consentedDrawn _ _ earlier).mono isDrawn
  case issuedDrawn =>
    intro token issued
    rw [isData] at issued
    obtain ⟨access, refresh⟩ := sound.issuedDrawn token (issued_of_cons issued hands)
    exact ⟨access.mono isDrawn, refresh.imp_right fun drawn => drawn.mono isDrawn⟩
  all_goals subst isData
  case issuedFrom =>
    intro token issued
    obtain ⟨code, chain⟩ := sound.issuedFrom token (issued_of_cons issued hands)
    exact ⟨code, chain.mono grows⟩
  case exchanged =>
    intro code input token isEvent
    obtain ⟨csrfToken, query, from_, rest⟩ :=
      sound.exchanged code input token (notFirst _ isEvent (nofun))
    exact ⟨csrfToken, query, ⟨grows from_.requested, grows from_.consented⟩, rest⟩
  case refreshed =>
    intro refreshToken token isEvent
    obtain ⟨notEmpty, old, issued, rest⟩ :=
      sound.refreshed refreshToken token (notFirst _ isEvent (nofun))
    exact ⟨notEmpty, old, issued.mono grows, rest⟩
  case pairs =>
    intro token other issued issuedOther
    exact sound.pairs token other (issued_of_cons issued hands) (issued_of_cons issuedOther hands)
  case access =>
    intro token other issued issuedOther
    exact sound.access token other (issued_of_cons issued hands) (issued_of_cons issuedOther hands)
  case apart =>
    intro token other issued issuedOther
    exact sound.apart token other (issued_of_cons issued hands) (issued_of_cons issuedOther hands)
  case spentOnce =>
    rw [List.filterMap_cons, spends]
    exact sound.spentOnce
  case csrf => exact isCsrf
  case codes =>
    intro key entry stored
    obtain ⟨unspent, rest⟩ := isCodes key entry stored
    refine ⟨fun input token isEvent => unspent input token ?_, rest⟩
    exact notFirst _ isEvent (nofun)
  case tokens =>
    exact fun key entry stored => (sound.tokens key entry stored).imp_right fun issued =>
      issued.mono grows
  case refreshes =>
    intro key entry stored
    obtain ⟨isKey, notEmpty, issued⟩ := sound.refreshes key entry stored
    exact ⟨isKey, notEmpty, issued.mono grows⟩
  case unspent =>
    exact fun token stored next isEvent =>
      sound.unspent token stored next (notFirst _ isEvent (nofun))
  case single =>
    intro code token other stored storedOther chain chainOther
    exact sound.single code token other stored storedOther (chain.of_cons hands)
      (chainOther.of_cons hands)

/-- The tokens of a new pair carry what is due for the grant. -/
def Grant.Carries (data : OAuthData) (input : TokenInput) (token : StoredToken) : Grant → Prop
  | .code code _ => ∃ csrfToken query, Consented data.history code csrfToken query ∧
      query.Covers token ∧ query.Presented input
  | .refresh _ old => ∀ query : AuthorizeQuery, query.Covers old → query.Covers token

def Grant.Live (data : OAuthData) : Grant → Prop
  | .code code original => ∃ expiresAt, data.codes code = some (original, expiresAt)
  | .refresh refreshToken old => ∃ expiresAt, data.refreshes refreshToken = some (old, expiresAt)

omit [OAuthEnv] in
theorem live_of_isStored (stored : grant.isStored data now = true) : grant.Live data := by
  cases grant with
  | code code original =>
    obtain ⟨expiresAt, isStored, -⟩ := ExpiringKeys.get_eq_some.1 (beq_iff_eq.1 stored)
    exact ⟨expiresAt, isStored⟩
  | refresh refreshToken original =>
    obtain ⟨expiresAt, isStored, -⟩ := ExpiringKeys.get_eq_some.1 (beq_iff_eq.1 stored)
    exact ⟨expiresAt, isStored⟩

omit [OAuthEnv] in
theorem token_event : (grant.event input token).token? = some token := by
  cases grant <;> rfl

/-- The identifiers of a new pair. -/
structure OAuthData.Next (data : OAuthData) (token : StoredToken) : Prop where
  access : token.accessToken = OAuthEnv.uuid data.drawn
  refresh : token.refreshToken = "" ∨ token.refreshToken = OAuthEnv.uuid (data.drawn + 1)

section

variable (next : data.Next token) (sound : data.Sound) {old : StoredToken}
variable (issued : Issued data.history old)
include next sound issued

theorem OAuthData.Next.ne_refresh (given : old.refreshToken ≠ "") :
    token.refreshToken ≠ old.refreshToken := by
  intro same
  have drawn := (sound.issuedDrawn old issued).2.resolve_left given
  rcases next.refresh with empty | isNext
  · exact given (same.symm.trans empty)
  · exact drawn.ne_uuid (Nat.le_succ _) (same.symm.trans isNext)

theorem OAuthData.Next.ne_access : old.accessToken ≠ token.accessToken := by
  rw [next.access]
  exact (sound.issuedDrawn old issued).1.ne_uuid le_rfl

end

theorem OAuthData.Next.apart (next : data.Next token) : token.accessToken ≠ token.refreshToken := by
  rw [next.access]
  intro same
  rcases next.refresh with empty | isNext
  · exact OAuthEnv.uuid_ne_empty _ (same.trans empty)
  · have := OAuthEnv.uuid_injective (same.trans isNext)
    omega

theorem OAuthData.Next.not_issued (next : data.Next token) (sound : data.Sound) :
    ¬ Issued data.history token :=
  fun issued => (sound.issuedDrawn token issued).1.ne_uuid le_rfl next.access

theorem OAuthData.Next.unspent (next : data.Next token) (sound : data.Sound)
    (live : grant.Live data) (later : StoredToken) :
    .refreshed token.refreshToken later ∉ grant.event input token :: data.history := by
  intro isEvent
  rcases List.mem_cons.1 isEvent with same | earlier
  · cases grant with
    | code code original => cases same
    | refresh refreshToken original =>
      obtain ⟨expiresAt, isStored⟩ := live
      obtain ⟨isKey, given, issued⟩ := sound.refreshes _ _ isStored
      have isRefresh : token.refreshToken = refreshToken := (OAuthEvent.refreshed.inj same).1
      exact next.ne_refresh sound issued (isKey ▸ given) (isRefresh.trans isKey.symm)
  · obtain ⟨given, old, issued, isRefresh, -⟩ := sound.refreshed _ _ earlier
    exact next.ne_refresh sound issued (isRefresh ▸ given) isRefresh.symm

section

variable (sound : data.Sound) (live : grant.Live data)
include sound live

/-- An exchange lengthens the chains of the code that is given, or of the pair that is. -/
theorem OAuthData.Sound.cases_of_extends
    (extends_ : Extends data.history code (grant.event input token)) :
    (∃ original, grant = .code code original) ∨ ∃ refreshToken original,
      grant = .refresh refreshToken original ∧ original.refreshToken = refreshToken ∧
        data.Stored original ∧ IssuedFrom data.history code original := by
  generalize isEvent : grant.event input token = event at extends_
  cases grant with
  | code given original =>
    cases extends_ with
    | exchanged =>
      cases isEvent
      exact .inl ⟨original, rfl⟩
    | refreshed => cases isEvent
  | refresh refreshToken original =>
    obtain ⟨expiresAt, isStored⟩ := live
    obtain ⟨isKey, given, issued⟩ := sound.refreshes _ _ isStored
    cases extends_ with
    | exchanged => cases isEvent
    | refreshed old token chain =>
      cases isEvent
      have isOriginal := sound.pairs original old issued chain.issued isKey (isKey ▸ given)
      refine .inr ⟨_, original, rfl, isKey, .inr ⟨expiresAt, ?_⟩, isOriginal ▸ chain⟩
      rw [isKey]
      exact isStored

/-- Whatever else is in the chains that an exchange lengthens was given for the new pair. -/
theorem OAuthData.Sound.eq_of_extends {other : StoredToken}
    (extends_ : Extends data.history code (grant.event input token)) (stored : data.Stored other)
    (chain : IssuedFrom data.history code other) :
    ¬ grant.Spends other := by
  intro spends
  rcases sound.cases_of_extends live extends_ with
    ⟨original, rfl⟩ | ⟨refreshToken, original, rfl, isKey, originalStored, originalChain⟩
  · obtain ⟨expiresAt, isStored⟩ := live
    obtain ⟨earlier, first, event⟩ := chain.first
    exact (sound.codes _ _ isStored).1 earlier first event
  · have access := (sound.issuedDrawn original originalChain.issued).1.ne_empty
    refine spends.other _ _ rfl isKey access ?_
    exact sound.single code other original stored originalStored chain originalChain

/-- An exchange keeps what holds of chains: what was given is no longer there. -/
theorem OAuthData.Sound.exchange (next : data.Next token)
    (carries : grant.Carries data input token) :
    (data.exchange now input grant token).Sound := by
  have isDrawn : data.drawn ≤ (data.exchange now input grant token).drawn := Nat.le_add_right _ 2
  have grows : data.history ⊆ grant.event input token :: data.history :=
    List.subset_cons_self _ _
  have isFirst : Issued (grant.event input token :: data.history) token :=
    ⟨_, List.mem_cons_self, token_event⟩
  have issuedBefore : ∀ other, Issued (grant.event input token :: data.history) other →
      other = token ∨ Issued data.history other := by
    rintro other ⟨event, isEvent, hands⟩
    rcases List.mem_cons.1 isEvent with rfl | earlier
    · exact .inl (Option.some.inj (hands.symm.trans token_event))
    · exact .inr ⟨event, earlier, hands⟩
  constructor
  case consentedDrawn =>
    intro csrfToken code isEvent
    rcases List.mem_cons.1 isEvent with same | earlier
    · cases grant <;> cases same
    · exact (sound.consentedDrawn _ _ earlier).mono isDrawn
  case issuedDrawn =>
    intro other issued
    rcases issuedBefore other issued with rfl | issued
    · refine ⟨⟨data.drawn, ?_, next.access⟩, next.refresh.imp_right fun isNext => ?_⟩
      · exact Nat.lt_add_of_pos_right (Nat.succ_pos 1)
      · exact ⟨data.drawn + 1, Nat.lt_succ_self _, isNext⟩
    · obtain ⟨access, refresh⟩ := sound.issuedDrawn other issued
      exact ⟨access.mono isDrawn, refresh.imp_right fun drawn => drawn.mono isDrawn⟩
  case issuedFrom =>
    intro other issued
    rcases issuedBefore other issued with rfl | issued
    · cases grant with
      | code code original => exact ⟨code, .exchanged input other List.mem_cons_self⟩
      | refresh refreshToken original =>
        obtain ⟨expiresAt, isStored⟩ := live
        obtain ⟨isKey, -, issuedOld⟩ := sound.refreshes _ _ isStored
        obtain ⟨code, chain⟩ := sound.issuedFrom original issuedOld
        refine ⟨code, .refreshed original other (chain.mono grows) ?_⟩
        rw [isKey]
        exact List.mem_cons_self
    · obtain ⟨code, chain⟩ := sound.issuedFrom other issued
      exact ⟨code, chain.mono grows⟩
  case exchanged =>
    intro code given other isEvent
    rcases List.mem_cons.1 isEvent with same | earlier
    · cases grant with
      | code _ original =>
        cases same
        obtain ⟨csrfToken, query, from_, rest⟩ := carries
        exact ⟨csrfToken, query, ⟨grows from_.requested, grows from_.consented⟩, rest⟩
      | refresh _ original => cases same
    · obtain ⟨csrfToken, query, from_, rest⟩ := sound.exchanged _ _ _ earlier
      exact ⟨csrfToken, query, ⟨grows from_.requested, grows from_.consented⟩, rest⟩
  case refreshed =>
    intro refreshToken other isEvent
    rcases List.mem_cons.1 isEvent with same | earlier
    · cases grant with
      | code _ original => cases same
      | refresh _ original =>
        cases same
        obtain ⟨expiresAt, isStored⟩ := live
        obtain ⟨isKey, given, issuedOld⟩ := sound.refreshes _ _ isStored
        exact ⟨given, original, issuedOld.mono grows, isKey, carries⟩
    · obtain ⟨given, old, issued, rest⟩ := sound.refreshed _ _ earlier
      exact ⟨given, old, issued.mono grows, rest⟩
  case pairs =>
    intro first second issuedFirst issuedSecond same given
    rcases issuedBefore first issuedFirst with isFirst | beforeFirst
    · rcases issuedBefore second issuedSecond with isSecond | beforeSecond
      · exact isFirst.trans isSecond.symm
      · rw [isFirst] at same
        exact absurd same (next.ne_refresh sound beforeSecond (same ▸ isFirst ▸ given))
    · rcases issuedBefore second issuedSecond with isSecond | beforeSecond
      · rw [isSecond] at same
        exact absurd same.symm (next.ne_refresh sound beforeFirst given)
      · exact sound.pairs first second beforeFirst beforeSecond same given
  case access =>
    intro first second issuedFirst issuedSecond same
    rcases issuedBefore first issuedFirst with isFirst | beforeFirst
    · rcases issuedBefore second issuedSecond with isSecond | beforeSecond
      · exact isFirst.trans isSecond.symm
      · rw [isFirst] at same
        exact absurd same.symm (next.ne_access sound beforeSecond)
    · rcases issuedBefore second issuedSecond with isSecond | beforeSecond
      · rw [isSecond] at same
        exact absurd same (next.ne_access sound beforeFirst)
      · exact sound.access first second beforeFirst beforeSecond same
  case apart =>
    intro first second issuedFirst issuedSecond same
    rcases issuedBefore first issuedFirst with isFirst | beforeFirst
    · rcases issuedBefore second issuedSecond with isSecond | beforeSecond
      · rw [isFirst, isSecond] at same
        exact next.apart same
      · rw [isFirst] at same
        have given : second.refreshToken ≠ "" := by
          rw [← same, next.access]
          exact OAuthEnv.uuid_ne_empty _
        have drawn := (sound.issuedDrawn second beforeSecond).2.resolve_left given
        exact drawn.ne_uuid le_rfl (same.symm.trans next.access)
    · rcases issuedBefore second issuedSecond with isSecond | beforeSecond
      · rw [isSecond] at same
        have drawn := (sound.issuedDrawn first beforeFirst).1
        rcases next.refresh with empty | isNext
        · exact drawn.ne_empty (same.trans empty)
        · exact drawn.ne_uuid (Nat.le_succ _) (same.trans isNext)
      · exact sound.apart first second beforeFirst beforeSecond same
  case spentOnce =>
    cases grant with
    | code code original =>
      obtain ⟨expiresAt, isStored⟩ := live
      refine List.nodup_cons.2 ⟨fun isSpent => ?_, sound.spentOnce⟩
      obtain ⟨event, isEvent, spends⟩ := List.mem_filterMap.1 isSpent
      cases event <;> cases spends
      exact (sound.codes _ _ isStored).1 _ _ isEvent
    | refresh refreshToken original =>
      obtain ⟨expiresAt, isStored⟩ := live
      have isKey := (sound.refreshes _ _ isStored).1
      refine List.nodup_cons.2 ⟨fun isSpent => ?_, sound.spentOnce⟩
      obtain ⟨event, isEvent, spends⟩ := List.mem_filterMap.1 isSpent
      cases event <;> cases spends
      exact sound.unspent original (.inr ⟨expiresAt, isKey.symm ▸ isStored⟩) _
        (isKey.symm ▸ isEvent)
  case csrf =>
    intro key entry stored
    rw [csrf_exchange] at stored
    exact (sound.csrf key entry stored).mono grows
  case codes =>
    intro key entry stored
    obtain ⟨before, isOther⟩ := codes_exchange stored
    obtain ⟨unspent, csrfToken, csrfData, consented, requested, same⟩ := sound.codes _ _ before
    refine ⟨fun given other isEvent => ?_, csrfToken, csrfData, grows consented,
      requested.mono grows, same⟩
    rcases List.mem_cons.1 isEvent with isFirst | earlier
    · cases grant with
      | code _ original =>
        cases isFirst
        exact isOther original rfl
      | refresh _ original => cases isFirst
    · exact unspent given other earlier
  case tokens =>
    intro key entry stored
    rcases tokens_storeToken (tokens_exchange stored).1 with ⟨isKey, isEntry⟩ | before
    · rw [isEntry]
      exact ⟨isKey.symm, isFirst⟩
    · exact (sound.tokens key entry before).imp_right fun issued => issued.mono grows
  case refreshes =>
    intro key entry stored
    rcases refreshes_storeToken (refreshes_exchange stored).1 with ⟨isKey, isEntry⟩ | before
    · rw [isEntry]
      exact ⟨isKey.1.symm, isKey.1 ▸ isKey.2, isFirst⟩
    · obtain ⟨isKey, given, issued⟩ := sound.refreshes key entry before
      exact ⟨isKey, given, issued.mono grows⟩
  case unspent =>
    intro other stored later isEvent
    rcases stored_exchange stored with rfl | ⟨before, spends⟩
    · exact next.unspent sound live later isEvent
    · rcases List.mem_cons.1 isEvent with isFirst | earlier
      · cases grant with
        | code _ original => cases isFirst
        | refresh refreshToken original =>
          obtain ⟨expiresAt, isStored⟩ := live
          obtain ⟨isKey, given, issuedOld⟩ := sound.refreshes _ _ isStored
          have isRefresh : other.refreshToken = refreshToken :=
            (OAuthEvent.refreshed.inj isFirst).1
          refine spends.other _ _ rfl isKey (sound.issuedDrawn original issuedOld).1.ne_empty ?_
          exact sound.pairs other original (sound.issued_of_stored before) issuedOld
            (isRefresh.trans isKey.symm) (isRefresh ▸ given)
      · exact sound.unspent other before later earlier
  case single =>
    intro code first second storedFirst storedSecond chainFirst chainSecond
    have unspent : ∀ later, .refreshed token.refreshToken later ∉
        grant.event input token :: data.history :=
      next.unspent sound live
    -- only the new pair is at the end of the chain that the exchange lengthens
    have alone : ∀ other, IssuedFrom (grant.event input token :: data.history) code token →
        (data.exchange now input grant token).Stored other →
          IssuedFrom (grant.event input token :: data.history) code other → other = token := by
      intro other newChain stored chain
      rcases stored_exchange stored with same | ⟨before, spends⟩
      · exact same
      rcases newChain.of_event token_event unspent with earlier | ⟨-, extends_⟩
      · exact absurd earlier.issued (next.not_issued sound)
      rcases chain.of_event token_event unspent with earlier | ⟨same, -⟩
      · exact absurd spends (sound.eq_of_extends live extends_ before earlier)
      · exact same
    rcases chainFirst.of_event token_event unspent with earlierFirst | ⟨isFirst, -⟩
    · rcases chainSecond.of_event token_event unspent with earlierSecond | ⟨isSecond, -⟩
      · rcases stored_exchange storedFirst with isFirst | ⟨beforeFirst, -⟩
        · exact absurd (isFirst ▸ earlierFirst.issued) (next.not_issued sound)
        rcases stored_exchange storedSecond with isSecond | ⟨beforeSecond, -⟩
        · exact absurd (isSecond ▸ earlierSecond.issued) (next.not_issued sound)
        exact sound.single code first second beforeFirst beforeSecond earlierFirst earlierSecond
      · exact (alone first (isSecond ▸ chainSecond) storedFirst chainFirst).trans isSecond.symm
    · exact isFirst.trans (alone second (isFirst ▸ chainFirst) storedSecond chainSecond).symm

end

end

end Sokar.OAuth
