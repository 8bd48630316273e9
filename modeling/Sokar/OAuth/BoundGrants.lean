import Sokar.OAuth.Grants

/-!
# Single-use grants

Every command of a route keeps what holds of chains of tokens, and no event is ever forgotten; so
grants are single-use and bound to the consent in every run.
-/

namespace Sokar.OAuth

open Process Transaction

variable {history history' : List OAuthEvent} {code : String} {token other : StoredToken}
  {data data' : OAuthData} {now : Instant} {input : TokenInput} {grant : Grant}

section

variable [OAuthEnv]

/-- A pair of tokens is as it was, or all gone. -/
def OAuthData.Leaves (data data' : OAuthData) (token : StoredToken) : Prop :=
  data'.tokens token.accessToken = data.tokens token.accessToken ∧
      data'.refreshes token.refreshToken = data.refreshes token.refreshToken ∨
    ¬ data'.Stored token

inductive OAuthData.Writes (data : OAuthData) : OAuthData → Prop where
  | aside (data' : OAuthData) (fewer : data.Fewer data') (tokens : data'.tokens = data.tokens)
      (refreshes : data'.refreshes = data.refreshes) : Writes data data'
  | deleted (data' : OAuthData) (fewer : data.Fewer data')
      (whole : ∀ token, Issued data.history token → data.Leaves data' token) : Writes data data'
  | requested (query : AuthorizeQuery) (name : Option String) (expiresAt : Instant)
      (passes : query.failure? = none) :
      Writes data { data with
        drawn := data.drawn + 1
        csrf := data.csrf.set (OAuthEnv.uuid data.drawn) (query.csrfData name) expiresAt
        history := .requested (OAuthEnv.uuid data.drawn) query :: data.history }
  | consented (csrfToken : String) (csrfData : CsrfData) (expiresAt : Instant)
      (requested : Requested data.history csrfToken csrfData) :
      Writes data { data with
        drawn := data.drawn + 1
        codes := data.codes.set (OAuthEnv.uuid data.drawn) csrfData.authCode expiresAt
        history := .consented csrfToken (OAuthEnv.uuid data.drawn) :: data.history }
  | exchanged (now : Instant) (input : TokenInput) (grant : Grant) (token : StoredToken)
      (live : grant.Live data) (next : data.Next token) (carries : grant.Carries data input token) :
      Writes data (data.exchange now input grant token)

theorem OAuthData.Writes.grows (writes : data.Writes data') : data.history ⊆ data'.history := by
  cases writes with
  | aside _ fewer => exact fun _ isEvent => fewer.history ▸ isEvent
  | deleted _ fewer => exact fun _ isEvent => fewer.history ▸ isEvent
  | requested => exact List.subset_cons_self _ _
  | consented => exact List.subset_cons_self _ _
  | exchanged => exact List.subset_cons_self _ _

theorem OAuthData.Sound.of_writes (sound : data.Sound) (writes : data.Writes data') :
    data'.Sound := by
  cases writes with
  | aside _ fewer => exact sound.fewer fewer
  | deleted _ fewer => exact sound.fewer fewer
  | requested query name expiresAt passes =>
    refine sound.noted (.requested _ query) rfl rfl (Nat.le_succ _) rfl
      (fun _ _ impossible => nomatch impossible) ?_ ?_
    · intro key entry stored
      rcases ExpiringKeys.of_set stored with ⟨rfl, rfl⟩ | ⟨-, before⟩
      · exact ⟨query, name, List.mem_cons_self, passes, rfl⟩
      · exact (sound.csrf key entry before).mono (List.subset_cons_self _ _)
    · intro key entry stored
      obtain ⟨unspent, csrfToken, csrfData, consented, requested, same⟩ :=
        sound.codes key entry stored
      exact ⟨unspent, csrfToken, csrfData, List.mem_cons_of_mem _ consented,
        requested.mono (List.subset_cons_self _ _), same⟩
  | consented csrfToken csrfData expiresAt requested =>
    refine sound.noted (.consented csrfToken _) rfl rfl (Nat.le_succ _) rfl ?_ ?_ ?_
    · intro other code same
      cases same
      exact ⟨data.drawn, Nat.lt_succ_self _, rfl⟩
    · exact fun key entry stored =>
        (sound.csrf key entry stored).mono (List.subset_cons_self _ _)
    · intro key entry stored
      rcases ExpiringKeys.of_set stored with ⟨rfl, rfl⟩ | ⟨-, before⟩
      · refine ⟨fun input token isEvent => ?_, csrfToken, csrfData, List.mem_cons_self,
          requested.mono (List.subset_cons_self _ _), rfl⟩
        obtain ⟨_, _, from_, -⟩ := sound.exchanged _ _ _ isEvent
        exact (sound.consentedDrawn _ _ from_.consented).ne_uuid le_rfl rfl
      · obtain ⟨unspent, csrfToken, csrfData, consented, requested, same⟩ :=
          sound.codes key entry before
        exact ⟨unspent, csrfToken, csrfData, List.mem_cons_of_mem _ consented,
          requested.mono (List.subset_cons_self _ _), same⟩
  | exchanged now input grant token live next carries => exact sound.exchange live next carries

section

variable {α β : Type} {session : OAuthSession} {known : OAuthStore}

/-- Events are never forgotten. -/
def HistoryGrows (store store' : OAuthStore) : Prop :=
  store.data.history ⊆ store'.data.history

structure CommandStep (store store' : OAuthStore) : Prop where
  writes : store.data.Writes store'.data
  now : store'.now = store.now

theorem CommandStep.idle (store : OAuthStore) : CommandStep store store :=
  ⟨.aside _ (.refl store.data) rfl rfl, rfl⟩

/-- Every step of the program is a command. -/
abbrev Commands (prog : OAuthProg α) (known : OAuthStore) : Prop :=
  prog.StepsFrom (fun store => store.data.Sound) HistoryGrows CommandStep (fun _ _ => True) known

theorem commands_pure (value : α) : Commands (pure value) known :=
  fun _ _ _ => trivial

theorem commands_query {view : OAuthData → Int → β} {rest : β → OAuthProg α}
    (commandsRest : ∀ store, HistoryGrows known store → store.data.Sound →
      Commands (rest (view store.data store.now)) store) :
    Commands (query view >>= rest) known :=
  Prog.StepsFrom.read (fun store _ => .idle store) commandsRest

theorem commands_commit {view : OAuthData → Int → α} {change : OAuthData → Int → OAuthData}
    (writes : ∀ store : OAuthStore, HistoryGrows known store → store.data.Sound →
      store.data.Writes (change store.data store.now)) :
    Commands (commit session view change) known :=
  Prog.StepsFrom.last (fun store grows sound => ⟨writes store grows sound, rfl⟩)
    fun _ _ _ _ _ _ => trivial

theorem commands_bind {first : OAuthProg β} {rest : β → OAuthProg α}
    (commands : Commands first known) (commandsRest : ∀ value store, Commands (rest value) store) :
    Commands (first >>= rest) known :=
  Prog.StepsFrom.bind (fun _ => List.Subset.refl _) List.Subset.trans commands
    fun value store _ _ => commandsRest value store

theorem commands_andThen {ε : Type} {first : OAuthProg (Except ε β)}
    {rest : β → OAuthProg (Except ε α)} (commands : Commands first known)
    (commandsRest : ∀ value store, Commands (rest value) store) :
    Commands (first.andThen rest) known := by
  refine commands_bind commands fun result store => ?_
  cases result with
  | error error => exact commands_pure _
  | ok value => exact commandsRest value store

theorem commands_rate (ip : String) (config : OAuthRate) (description : String) :
    Commands (checkOauthRate session ip config description) known :=
  commands_commit fun store _ _ => .aside _ { OAuthData.Fewer.refl store.data with } rfl rfl

theorem commands_authenticate (input : CredentialsInput) : Commands (authenticate input) known := by
  unfold authenticate
  dsimp only
  split
  · exact commands_pure _
  · refine commands_query fun store _ _ => ?_
    split
    · exact commands_pure _
    · exact commands_pure _

theorem commands_register (input : RegisterInput) : Commands (input.register session) known := by
  refine commands_andThen (commands_rate _ _ _) fun _ store => ?_
  split
  · split
    · exact commands_pure _
    · refine commands_commit fun store _ _ => .aside _ ?_ rfl rfl
      exact { OAuthData.Fewer.refl store.data with drawn := Nat.le_add_right _ 3 }
  · exact commands_pure _

theorem commands_authorize (authorize : AuthorizeQuery) :
    Commands (authorize.authorize session) known := by
  unfold AuthorizeQuery.authorize
  split
  · exact commands_pure _
  next passes =>
    have shows : ∀ clientName name store, Commands
        (authorize.showConsent session clientName name) store :=
      fun _ name _ => commands_commit fun store _ _ => .requested authorize name _ passes
    refine commands_query fun store _ _ => ?_
    split
    · exact commands_pure _
    split
    · exact commands_pure _
    refine commands_query fun store _ _ => ?_
    split
    · exact commands_pure _
    split
    · exact shows _ _ _
    · refine commands_query fun store _ _ => ?_
      split
      · exact shows _ _ _
      · exact commands_pure _

theorem commands_consent (input : ConsentInput) : Commands (input.consent session) known := by
  unfold ConsentInput.consent
  split
  · exact commands_pure _
  next csrfToken _ =>
    refine commands_query fun store _ sound => ?_
    split
    · exact commands_pure _
    next csrfData found =>
      obtain ⟨expiresAt, stored, -⟩ := ExpiringKeys.get_eq_some.1 found
      have requested := sound.csrf csrfToken _ stored
      have issues : ∀ later, HistoryGrows store later →
          Commands (csrfData.issueCode session csrfToken) later := by
        intro later grows
        refine commands_commit fun last more _ => .consented csrfToken csrfData _ ?_
        exact requested.mono (List.Subset.trans grows more)
      refine Prog.StepsFrom.update (fun later _ _ => ?_) fun later grows _ _ => ?_
      · have fewer : later.data.Fewer { later.data with csrf := later.data.csrf.del csrfToken } :=
          { OAuthData.Fewer.refl later.data with
            csrf := fun _ _ kept => (ExpiringKeys.of_del kept).2 }
        exact ⟨.aside _ fewer rfl rfl, rfl⟩
      split
      · exact commands_pure _
      refine commands_query fun last more _ => ?_
      split
      · exact commands_pure _
      split
      · exact commands_pure _
      split
      · exact commands_pure _
      split
      · exact commands_pure _
      · exact issues last (List.Subset.trans grows more)

omit [OAuthEnv] in
theorem filled_filled {text : Option String} : filled (filled text) = filled text := by
  cases text with
  | none => rfl
  | some value => by_cases empty : value = "" <;> simp [filled, empty]

omit [OAuthEnv] in
theorem eq_some_of_filled {text : Option String} {value : String} (given : filled text = some value) :
    text = some value := by
  cases text with
  | none => cases given
  | some text => exact (Option.filter_eq_some_iff.1 given).1

/-- What passes the checks of a code. -/
structure TokenInput.Proves (input : TokenInput) (clientId : String) (authCode : AuthCode) :
    Prop where
  client : authCode.clientId = clientId
  redirectUri : input.redirectUri = some authCode.redirectUri
  verifier : ∀ challenge, filled authCode.codeChallenge = some challenge →
    ∃ verifier, input.codeVerifier = some verifier ∧
      OAuthEnv.sha256Base64url verifier = challenge

theorem proves_of_codeFailure {clientId : String} {authCode : AuthCode}
    (passes : input.codeFailure? clientId authCode = none) : input.Proves clientId authCode := by
  unfold TokenInput.codeFailure? at passes
  split at passes
  · cases passes
  next sameClient =>
  split at passes
  · cases passes
  split at passes
  · cases passes
  next sameUri =>
  simp only [Bool.or_eq_true, not_or, decide_eq_true_eq, not_not] at sameUri
  refine ⟨not_not.1 sameClient, sameUri.2, fun challenge given => ?_⟩
  rw [given, Option.isSome_some, if_pos rfl] at passes
  split at passes
  · cases passes
  next verifier isVerifier =>
    split at passes
    next verifies =>
      rw [verifyPkce, given] at verifies
      exact ⟨verifier, eq_some_of_filled isVerifier,
        beq_iff_eq.1 (Bool.and_eq_true_iff.1 verifies).2⟩
    next => cases passes

/-- What passes the checks of a code is covered by the request, and proves to be its caller. -/
theorem OAuthData.Sound.carries_code (sound : data.Sound) {clientId : String} {original : AuthCode}
    (live : (Grant.code code original).Live data)
    (passes : input.codeFailure? clientId original = none) (accessToken refreshToken : String) :
    (Grant.code code original).Carries data input {
      clientId
      restaurantId := original.restaurantId
      restaurantName := original.restaurantName
      scopes := original.scopes
      resource := some (original.resource.getD OAuthEnv.issuer)
      accessToken
      refreshToken } := by
  obtain ⟨expiresAt, isStored⟩ := live
  obtain ⟨-, csrfToken, csrfData, consented, ⟨query, name, requested, checks, isCsrf⟩, isCode⟩ :=
    sound.codes _ _ isStored
  have isOriginal : original = (query.csrfData name).authCode := isCsrf ▸ isCode
  subst isOriginal
  have proves := proves_of_codeFailure passes
  have checked := AuthorizeQuery.checked checks
  obtain ⟨queryClient, isClient⟩ := checked.client
  obtain ⟨redirectUri, isUri⟩ := checked.redirectUri
  obtain ⟨challenge, isChallenge, notEmpty⟩ := checked.challenge
  refine ⟨csrfToken, query, ⟨requested, consented⟩, ⟨?_, rfl, rfl, rfl⟩, ⟨?_, ?_⟩⟩
  · have same : query.clientId.getD "" = clientId := proves.client
    rw [isClient, Option.getD_some] at same
    rw [isClient, same]
  · have same : input.redirectUri = some (query.redirectUri.getD "") := proves.redirectUri
    rw [same, isUri, Option.getD_some]
  · have given : filled (query.csrfData name).authCode.codeChallenge = some challenge := by
      change filled (filled query.codeChallenge) = some challenge
      rw [filled_filled, isChallenge]
      simp [filled, notEmpty]
    obtain ⟨verifier, isVerifier, same⟩ := proves.verifier challenge given
    exact ⟨verifier, isVerifier, isChallenge.trans (congrArg some same.symm)⟩

/-- A refreshed pair is covered by the request of the old one. -/
theorem carries_refresh {old : StoredToken} (refreshToken accessToken next : String) :
    (Grant.refresh refreshToken old).Carries data input { old with
      resource := some (old.resource.getD OAuthEnv.issuer)
      accessToken
      refreshToken := next } :=
  fun _ covers => ⟨covers.client, covers.restaurant, covers.scopes, by
    rw [covers.resource]
    rfl⟩

/-- The script stores a pair for what it finds, or nothing. -/
theorem commands_exchangeToken {next : String → String → StoredToken} (isNext : ∀ data : OAuthData,
      data.Next (next (OAuthEnv.uuid data.drawn) (OAuthEnv.uuid (data.drawn + 1))))
    (carries : ∀ data : OAuthData, data.Sound → grant.Live data →
      grant.Carries data input (next (OAuthEnv.uuid data.drawn) (OAuthEnv.uuid (data.drawn + 1)))) :
    Commands (exchangeToken session input grant next) known := by
  unfold exchangeToken
  refine commands_commit fun store _ sound => ?_
  split
  next stored =>
    have live := live_of_isStored stored
    exact .exchanged store.now input grant _ live (isNext _) (carries _ sound live)
  next => exact .aside _ (.refl store.data) rfl rfl

section

variable (input : TokenInput) (clientId : String) (client : Option RegisteredClient)

theorem commands_exchangeCode : Commands (input.exchangeCode session clientId client) known := by
  unfold TokenInput.exchangeCode
  split
  · exact commands_pure _
  refine commands_query fun store _ _ => ?_
  split
  · exact commands_pure _
  split
  · exact commands_pure _
  next authCode _ _ passes =>
    refine commands_bind (commands_exchangeToken (fun data => ⟨rfl, ?_⟩) ?_) fun token _ => ?_
    · split
      · exact .inr rfl
      · exact .inl rfl
    · exact fun data sound live => sound.carries_code live passes _ _
    · cases token <;> exact commands_pure _

theorem commands_exchangeRefresh :
    Commands (input.exchangeRefresh session clientId client) known := by
  unfold TokenInput.exchangeRefresh
  split
  · exact commands_pure _
  split
  · exact commands_pure _
  refine commands_query fun store _ _ => ?_
  split
  · exact commands_pure _
  next oldToken _ =>
    dsimp only
    split
    · exact commands_pure _
    split
    · exact commands_pure _
    refine commands_bind (commands_exchangeToken (fun data => ⟨rfl, .inr rfl⟩) ?_) fun token _ => ?_
    · exact fun data _ _ => carries_refresh _ _ _
    · cases token <;> exact commands_pure _

end

theorem commands_exchange (input : TokenInput) : Commands (input.exchange session) known := by
  refine commands_andThen (commands_rate _ _ _) fun _ store => ?_
  refine commands_andThen (commands_authenticate _) fun client store => ?_
  split
  · exact commands_exchangeCode _ _ _
  · exact commands_exchangeRefresh _ _ _
  · exact commands_pure _

omit [OAuthEnv] in
theorem fewer_del (data : OAuthData) (accessToken refreshToken : String) :
    data.Fewer { data with
      tokens := data.tokens.del accessToken
      refreshes := data.refreshes.del refreshToken } where
  drawn := le_rfl
  history := rfl
  csrf _ _ stored := stored
  codes := rfl
  tokens _ _ stored := (ExpiringKeys.of_del stored).2
  refreshes _ _ stored := (ExpiringKeys.of_del stored).2

omit [OAuthEnv] in
theorem not_stored_of_absent (access : data.tokens token.accessToken = none)
    (refresh : data.refreshes token.refreshToken = none) : ¬ data.Stored token := by
  rintro (⟨expiresAt, stored⟩ | ⟨expiresAt, stored⟩)
  · cases access.symm.trans stored
  · cases refresh.symm.trans stored

theorem OAuthData.Sound.refreshes_empty (sound : data.Sound) : data.refreshes "" = none := by
  cases stored : data.refreshes "" with
  | none => rfl
  | some entry => exact absurd rfl (sound.refreshes _ _ stored).2.1

theorem OAuthData.Sound.deleted_pair (sound : data.Sound) (issued : Issued data.history token)
    (given : token.refreshToken ≠ "") :
    data.Writes { data with
      tokens := data.tokens.del token.accessToken
      refreshes := data.refreshes.del token.refreshToken } := by
  refine .deleted _ (fewer_del data _ _) fun other issuedOther => ?_
  by_cases sameAccess : other.accessToken = token.accessToken
  · have same := sound.access other token issuedOther issued sameAccess
    subst same
    exact .inr (not_stored_of_absent (Function.update_self ..) (Function.update_self ..))
  by_cases sameRefresh : other.refreshToken = token.refreshToken
  · exact absurd (congrArg StoredToken.accessToken
      (sound.pairs other token issuedOther issued sameRefresh (sameRefresh ▸ given))) sameAccess
  exact .inl ⟨Function.update_of_ne sameAccess .., Function.update_of_ne sameRefresh ..⟩

theorem OAuthData.Sound.deleted_access (sound : data.Sound) (issued : Issued data.history token)
    (alone : token.refreshToken = "") :
    data.Writes { data with tokens := data.tokens.del token.accessToken } := by
  refine .deleted _ { fewer_del data token.accessToken "" with
    refreshes := fun _ _ stored => stored } fun other issuedOther => ?_
  by_cases sameAccess : other.accessToken = token.accessToken
  · have same := sound.access other token issuedOther issued sameAccess
    subst same
    refine .inr (not_stored_of_absent (Function.update_self ..) ?_)
    rw [alone]
    exact sound.refreshes_empty
  · exact .inl ⟨Function.update_of_ne sameAccess .., rfl⟩

theorem OAuthData.Sound.deleted_refresh (sound : data.Sound) (issued : Issued data.history token) :
    data.Writes { data with refreshes := data.refreshes.del token.accessToken } := by
  refine .deleted _ { fewer_del data "" token.accessToken with
    tokens := fun _ _ stored => stored } fun other issuedOther => ?_
  refine .inl ⟨rfl, Function.update_of_ne ?_ ..⟩
  exact (sound.apart token other issued issuedOther).symm

def FoundToken (presented : String) (found : Option StoredToken) (store : OAuthStore) : Prop :=
  ∀ token, found = some token → Issued store.data.history token ∧
    (token.accessToken = presented ∨ token.refreshToken = presented ∧ presented ≠ "")

/-- A pair that is not deleted as one has an access token only, and was found by it. -/
theorem OAuthData.Sound.alone (sound : data.Sound) (issued : Issued data.history token)
    {presented : String} (alone : ¬(token.accessToken ≠ "" ∧ token.refreshToken ≠ ""))
    (isPresented : token.accessToken = presented ∨
      token.refreshToken = presented ∧ presented ≠ "") :
    token.refreshToken = "" ∧ token.accessToken = presented := by
  have given := (sound.issuedDrawn token issued).1.ne_empty
  have isEmpty : token.refreshToken = "" := by
    by_contra notEmpty
    exact alone ⟨given, notEmpty⟩
  refine ⟨isEmpty, isPresented.resolve_right fun isRefresh => isRefresh.2 ?_⟩
  exact isRefresh.1.symm.trans isEmpty

theorem commands_revokeToken (clientId presented : String) :
    Commands (revokeToken session clientId presented) known := by
  have finds : (findToken presented).StepsFrom (fun store => store.data.Sound) HistoryGrows
      CommandStep (FoundToken presented) known := by
    refine Prog.StepsFrom.read (fun store _ => .idle store) ?_
    intro store _ sound
    split
    next token found =>
      refine Prog.StepsFrom.pure fun later grows _ other same => ?_
      cases same
      obtain ⟨expiresAt, stored, -⟩ := ExpiringKeys.get_eq_some.1 found
      obtain ⟨isKey, issued⟩ := sound.tokens _ _ stored
      exact ⟨issued.mono grows, .inl isKey⟩
    · intro store _ _ sound
      refine ⟨.idle store, fun _ later grows _ other found => ?_⟩
      obtain ⟨expiresAt, stored, -⟩ := ExpiringKeys.get_eq_some.1 found
      obtain ⟨isKey, given, issued⟩ := sound.refreshes _ _ stored
      exact ⟨issued.mono grows, .inr ⟨isKey, given⟩⟩
  refine finds.bind (fun _ => List.Subset.refl _) List.Subset.trans fun found store _ isFound => ?_
  cases found with
  | none => exact commands_pure _
  | some token =>
    have issuedLater : ∀ later, HistoryGrows store later → later.data.Sound →
        Issued later.data.history token ∧
          (token.accessToken = presented ∨ token.refreshToken = presented ∧ presented ≠ "") :=
      fun later grows sound => isFound later grows sound token rfl
    dsimp only
    split
    · exact commands_pure _
    split
    next given =>
      refine Prog.StepsFrom.update (fun later grows sound => ?_) fun _ _ _ _ => commands_pure _
      exact ⟨sound.deleted_pair (issuedLater later grows sound).1 given.2, rfl⟩
    next alone =>
      refine Prog.StepsFrom.update (fun later grows sound => ?_) fun later grows sound _ => ?_
      · obtain ⟨issued, isPresented⟩ := issuedLater later grows sound
        obtain ⟨isEmpty, isAccess⟩ := sound.alone issued alone isPresented
        subst isAccess
        exact ⟨sound.deleted_access issued isEmpty, rfl⟩
      · refine Prog.StepsFrom.update (fun last more soundLast => ?_) fun _ _ _ _ => commands_pure _
        obtain ⟨issued, isPresented⟩ :=
          issuedLater last (List.Subset.trans grows more) soundLast
        obtain ⟨-, isAccess⟩ := soundLast.alone issued alone isPresented
        subst isAccess
        exact ⟨soundLast.deleted_refresh issued, rfl⟩

theorem commands_revoke (input : RevokeInput) : Commands (input.revoke session) known := by
  refine commands_andThen (commands_rate _ _ _) fun _ store => ?_
  refine commands_andThen (commands_authenticate _) fun client store => ?_
  split
  · exact commands_pure _
  · exact commands_revokeToken _ _

theorem commands_prog (call : OAuthCall) : Commands (call.prog session) known := by
  cases call with
  | register input => exact commands_register input
  | authorize query => exact commands_authorize query
  | consent input => exact commands_consent input
  | token input => exact commands_exchange input
  | revoke input => exact commands_revoke input

end

/-- Codes and refresh tokens are spent once, one pair at a time comes from each code, and every
valid token is for what was asked for and consented to, and came first to a caller who proved to be
the one who asked. -/
structure BoundGrants (store : OAuthStore) : Prop where
  spentOnce : (store.data.history.filterMap OAuthEvent.spent?).Nodup
  oneAccessToken : ∀ code accessToken other token token',
    validateOAuthToken accessToken store.data store.now = some token →
      validateOAuthToken other store.data store.now = some token' →
        IssuedFrom store.data.history code token → IssuedFrom store.data.history code token' →
          accessToken = other
  oneRefreshToken : ∀ code refreshToken other token token',
    store.data.refreshes.get store.now refreshToken = some token →
      store.data.refreshes.get store.now other = some token' →
        IssuedFrom store.data.history code token → IssuedFrom store.data.history code token' →
          refreshToken = other
  authorized : ∀ token, (∃ accessToken,
      validateOAuthToken accessToken store.data store.now = some token) ∨
        (∃ refreshToken, store.data.refreshes.get store.now refreshToken = some token) →
    ∃ code csrfToken query input first,
      Authorized store.data.history token code csrfToken query input first

theorem tokens_of_validate {accessToken : String}
    (valid : validateOAuthToken accessToken data now = some token) :
    ∃ expiresAt, data.tokens accessToken = some (token, expiresAt) := by
  obtain ⟨found, -⟩ := Option.filter_eq_some_iff.1 valid
  obtain ⟨expiresAt, stored, -⟩ := ExpiringKeys.get_eq_some.1 found
  exact ⟨expiresAt, stored⟩

theorem OAuthData.Sound.stored_access (sound : data.Sound) {accessToken : String}
    (valid : validateOAuthToken accessToken data now = some token) :
    token.accessToken = accessToken ∧ data.Stored token := by
  obtain ⟨expiresAt, stored⟩ := tokens_of_validate valid
  have isKey : token.accessToken = accessToken := (sound.tokens _ _ stored).1
  exact ⟨isKey, .inl ⟨expiresAt, isKey.symm ▸ stored⟩⟩

theorem OAuthData.Sound.stored_refresh (sound : data.Sound) {refreshToken : String}
    (valid : data.refreshes.get now refreshToken = some token) :
    token.refreshToken = refreshToken ∧ data.Stored token := by
  obtain ⟨expiresAt, stored, -⟩ := ExpiringKeys.get_eq_some.1 valid
  have isKey : token.refreshToken = refreshToken := (sound.refreshes _ _ stored).1
  exact ⟨isKey, .inr ⟨expiresAt, isKey.symm ▸ stored⟩⟩

theorem OAuthData.Sound.boundGrants {store : OAuthStore} (sound : store.data.Sound) :
    BoundGrants store where
  spentOnce := sound.spentOnce
  oneAccessToken code accessToken other token token' valid validOther chain chainOther := by
    obtain ⟨isKey, stored⟩ := sound.stored_access valid
    obtain ⟨isOther, storedOther⟩ := sound.stored_access validOther
    rw [← isKey, ← isOther, sound.single code token token' stored storedOther chain chainOther]
  oneRefreshToken code refreshToken other token token' valid validOther chain chainOther := by
    obtain ⟨isKey, stored⟩ := sound.stored_refresh valid
    obtain ⟨isOther, storedOther⟩ := sound.stored_refresh validOther
    rw [← isKey, ← isOther, sound.single code token token' stored storedOther chain chainOther]
  authorized token valid := by
    refine sound.authorized (sound.issued_of_stored ?_)
    rcases valid with ⟨accessToken, valid⟩ | ⟨refreshToken, valid⟩
    · exact (sound.stored_access valid).2
    · exact (sound.stored_refresh valid).2

variable {clients : ExpiringKeys String RegisteredClient} {exposures : List ExposureSettings}
  {restaurants : List McpRestaurant}

theorem sound_oauthStart : (oauthStart clients exposures restaurants now).data.Sound where
  consentedDrawn _ _ isEvent := nomatch isEvent
  issuedDrawn _ issued := nomatch issued.choose_spec.1
  issuedFrom _ issued := nomatch issued.choose_spec.1
  exchanged _ _ _ isEvent := nomatch isEvent
  refreshed _ _ isEvent := nomatch isEvent
  pairs _ _ issued := nomatch issued.choose_spec.1
  access _ _ issued := nomatch issued.choose_spec.1
  apart _ _ issued := nomatch issued.choose_spec.1
  spentOnce := List.nodup_nil
  csrf _ _ stored := nomatch stored
  codes _ _ stored := nomatch stored
  tokens _ _ stored := nomatch stored
  refreshes _ _ stored := nomatch stored
  unspent _ _ _ isEvent := nomatch isEvent
  single _ _ _ _ _ chain := nomatch chain.issued.choose_spec.1

section

variable {calls : OAuthSession → OAuthCall}
  {c : Config OAuthSession OAuthStore (Except OAuthError OAuthReply)}

theorem known_of_run {moves : List (Move OAuthSession OAuthStore)}
    (run : (oauthSystem calls).Run (.initial (oauthStart clients exposures restaurants now))
      moves c) :
    System.Run.Known (oauthSystem calls) (fun store => store.data.Sound) HistoryGrows
      (fun _ => CommandStep) (fun _ _ _ => True) (oauthStart clients exposures restaurants now)
      moves c := by
  have always : ∀ move ∈ moves, True := fun _ _ => trivial
  refine run.known_initial (fun _ => List.Subset.refl _) List.Subset.trans ?_ ?_ ?_ ?_
    sound_oauthStart always
  · exact fun i store _ _ => commands_prog (calls i)
  · exact fun _ _ sound step => ⟨sound.of_writes step.writes, step.writes.grows⟩
  · exact fun _ _ sound => ⟨sound, List.Subset.refl _⟩
  · intro store store' sound ticks
    have same : store'.data = store.data := ticks.2.1
    unfold HistoryGrows
    rw [same]
    exact ⟨sound, List.Subset.refl _⟩

/-- Whatever requests run in whatever order, grants are single-use and bound to the consent. -/
theorem boundGrants_of_reaches (reaches : (oauthSystem calls).Reaches
      (.initial (oauthStart clients exposures restaurants now)) c) : BoundGrants c.shared := by
  obtain ⟨moves, run⟩ := reaches.run
  exact (known_of_run run).holds.boundGrants

end

end

section

/-- Identifiers that tell how many were drawn before, and digests that are the texts themselves. -/
@[reducible] def OAuthEnv.sample : OAuthEnv where
  sha256 := id
  issuer := "https://api.suppernote.com"
  uuid drawn := String.ofList (List.replicate (drawn + 1) 'u')
  uuid_injective drawn drawn' same := by
    have sameLength := congrArg List.length (String.ofList_injective same)
    rw [List.length_replicate, List.length_replicate] at sameLength
    exact Nat.succ.inj sameLength
  uuid_ne_empty drawn empty := by
    have sameLength := congrArg List.length (congrArg String.toList empty)
    simp at sameLength
  sha256Base64url := id
  parseUrl _ := none

attribute [local instance] OAuthEnv.sample

def sampleVerifier : String := "abcdefghijklmnopqrstuvwxyz0123456789abcdefg"

/-- A client of a known platform asks for a restaurant's reservations, without naming a resource. -/
def sampleQuery : AuthorizeQuery where
  clientId := some "claude"
  redirectUri := some "https://claude.ai/api/mcp/auth_callback"
  responseType := some "code"
  state := some "s"
  scope := some "mcp:read mcp:reserve"
  restaurantId := none
  resource := none
  codeChallenge := some sampleVerifier
  codeChallengeMethod := some "S256"

def sampleConsent : ConsentInput :=
  ⟨none, none, none, none, none, none, none, none, some "approve", some "u"⟩

def sampleExchange : TokenInput where
  ip := "127.0.0.1"
  credentials := ⟨some "claude", none, none⟩
  grantType := some "authorization_code"
  code := some "uu"
  redirectUri := some "https://claude.ai/api/mcp/auth_callback"
  codeVerifier := some sampleVerifier
  refreshToken := none
  resource := none

def sampleRefresh : TokenInput :=
  { sampleExchange with grantType := some "refresh_token", refreshToken := some "uuuu" }

/-- A request, its consent, the exchange of the code, and two calls that refresh the same tokens. -/
def sampleCalls (session : OAuthSession) : OAuthCall :=
  match session with
  | 0 => .authorize sampleQuery
  | 1 => .consent sampleConsent
  | 2 => .token sampleExchange
  | _ => .token sampleRefresh

def sampleStart : OAuthStore :=
  oauthStart .empty [⟨"r", true⟩] [⟨"r", "Bistro", true⟩] 0

/-- Of two calls that refresh the same tokens at the same time, one stores new ones. -/
theorem boundGrants_sample : ∃ moves c,
    (oauthSystem sampleCalls).Run (.initial sampleStart) moves c ∧
      c.shared.data.history.map OAuthEvent.spent? =
        [some (.inr "uuuu"), some (.inl "uu"), none, none] ∧ BoundGrants c.shared := by
  obtain ⟨moves, c, run, shown⟩ := (oauthSystem sampleCalls).exists_run_of_schedule
    (List.replicate 4 0 ++ List.replicate 5 1 ++ List.replicate 5 2 ++ List.replicate 4 3 ++
      List.replicate 5 4 ++ [3]) (.initial sampleStart)
    (fun _ c => c.shared.data.history.map OAuthEvent.spent? =
      [some (.inr "uuuu"), some (.inl "uu"), none, none]) (by decide +kernel)
  exact ⟨moves, c, run, shown, boundGrants_of_reaches run.reaches⟩

def sampleToken : StoredToken :=
  ⟨"claude", none, none, ["mcp:read", "mcp:reserve"], some "https://api.suppernote.com", "uuu",
    "uuuu"⟩

/-- Tokens of a request that names no resource are for the issuer. -/
theorem token_of_issuer : ∃ clients exposures restaurants now calls c,
    (oauthSystem calls).Reaches (.initial (oauthStart clients exposures restaurants now)) c ∧
      ∃ accessToken token code csrfToken query input first,
        validateOAuthToken accessToken c.shared.data c.shared.now = some token ∧
          Authorized c.shared.data.history token code csrfToken query input first ∧
            token.resource ≠ query.resource := by
  obtain ⟨moves, c, run, valid, events⟩ := (oauthSystem sampleCalls).exists_run_of_schedule
    (List.replicate 4 0 ++ List.replicate 5 1 ++ List.replicate 5 2) (.initial sampleStart)
    (fun _ c => validateOAuthToken "uuu" c.shared.data c.shared.now = some sampleToken ∧
      c.shared.data.history = [.exchanged "uu" sampleExchange sampleToken, .consented "u" "uu",
        .requested "u" sampleQuery]) (by decide +kernel)
  refine ⟨_, _, _, _, sampleCalls, c, run.reaches, "uuu", sampleToken, "uu", "u", sampleQuery,
    sampleExchange, sampleToken, valid, ?_, fun impossible => nomatch impossible⟩
  rw [events]
  refine ⟨⟨by simp, by simp⟩, by simp, .exchanged sampleExchange sampleToken (by simp), ?_, ?_⟩
  · exact ⟨rfl, rfl, by decide +kernel, rfl⟩
  · exact ⟨rfl, sampleVerifier, rfl, rfl⟩

end

end Sokar.OAuth
