import Sokar.OAuth.BoundGrants

/-!
# Final revocations

A revocation looks a pair of tokens up in one command and deletes it in another.  Nothing is left of
what was issued from a code once a pair of it is deleted and no other one is there; but a refresh
between the two commands puts another pair in the place of the one that is deleted.
-/

namespace Sokar.OAuth

open Process Transaction

variable {code : String} {token : StoredToken} {data data' : OAuthData}

/-! ## Pairs that are as they were -/

theorem OAuthData.Leaves.refl (data : OAuthData) (token : StoredToken) : data.Leaves data token :=
  .inl ⟨rfl, rfl⟩

theorem stored_congr (access : data'.tokens token.accessToken = data.tokens token.accessToken)
    (refresh : data'.refreshes token.refreshToken = data.refreshes token.refreshToken)
    (stored : data'.Stored token) : data.Stored token :=
  stored.imp (fun ⟨expiresAt, isStored⟩ => ⟨expiresAt, access ▸ isStored⟩)
    fun ⟨expiresAt, isStored⟩ => ⟨expiresAt, refresh ▸ isStored⟩

theorem OAuthData.Leaves.trans {data'' : OAuthData} (first : data.Leaves data' token)
    (second : data'.Leaves data'' token) : data.Leaves data'' token := by
  rcases second with ⟨access, refresh⟩ | gone
  · rcases first with ⟨access', refresh'⟩ | gone
    · exact .inl ⟨access.trans access', refresh.trans refresh'⟩
    · exact .inr fun stored => gone (stored_congr access refresh stored)
  · exact .inr gone

/-- How states follow one another as long as no tokens are issued from the code: what was issued
before can only be deleted, and the pair is deleted whole. -/
structure Later (code : String) (token : StoredToken) (store store' : OAuthStore) : Prop where
  history : HistoryGrows store store'
  now : store.now ≤ store'.now
  issued : ∀ other, IssuedFrom store'.data.history code other →
    IssuedFrom store.data.history code other
  stored : ∀ other, Issued store.data.history other → store'.data.Stored other →
    store.data.Stored other
  leaves : store.data.Leaves store'.data token

theorem Later.refl (store : OAuthStore) : Later code token store store :=
  ⟨List.Subset.refl _, le_rfl, fun _ chain => chain, fun _ _ stored => stored, .refl _ _⟩

theorem Later.trans {store store' store'' : OAuthStore} (first : Later code token store store')
    (second : Later code token store' store'') : Later code token store store'' where
  history := List.Subset.trans first.history second.history
  now := first.now.trans second.now
  issued other chain := first.issued other (second.issued other chain)
  stored other issued stored :=
    first.stored other issued (second.stored other (issued.mono first.history) stored)
  leaves := first.leaves.trans second.leaves

/-- The pair is gone, or what was presented has expired. -/
def Gone (token : StoredToken) (expiresAt : Instant) (store : OAuthStore) : Prop :=
  ¬ store.data.Stored token ∨ expiresAt ≤ store.now

theorem gone_of_missing {space space' : ExpiringKeys String StoredToken} {key : String}
    {expiresAt : Instant} {store : OAuthStore} (stored : space key = some (token, expiresAt))
    (same : space' key = space key ∨ ¬ store.data.Stored token)
    (missing : space'.get store.now key = none) : Gone token expiresAt store := by
  rcases same with same | gone
  · refine .inr (not_lt.1 fun live => ?_)
    rw [ExpiringKeys.get, same, stored, Option.bind_some, if_pos live] at missing
    cases missing
  · exact .inl gone

section

variable [OAuthEnv]

/-- The code was exchanged, and nothing is left of what was issued from it. -/
structure OAuthData.Ended (data : OAuthData) (code : String) : Prop where
  exchanged : ∃ input first, OAuthEvent.exchanged code input first ∈ data.history
  nothing : ∀ other, data.Stored other → ¬ IssuedFrom data.history code other

/-- Nothing is ever issued again from a code of which nothing is left. -/
theorem OAuthData.Ended.of_writes (ended : data.Ended code) (sound : data.Sound)
    (writes : data.Writes data') : data'.Ended code := by
  obtain ⟨input, first, exchanged⟩ := ended.exchanged
  refine ⟨⟨input, first, writes.grows exchanged⟩, fun other stored chain => ?_⟩
  cases writes with
  | aside _ fewer => exact ended.nothing other (fewer.stored stored) (fewer.history ▸ chain)
  | deleted _ fewer => exact ended.nothing other (fewer.stored stored) (fewer.history ▸ chain)
  | requested => exact ended.nothing other stored (chain.of_cons rfl)
  | consented => exact ended.nothing other stored (chain.of_cons rfl)
  | exchanged now given grant token live next carries =>
    have unspent : ∀ later, .refreshed token.refreshToken later ∉
        grant.event given token :: data.history :=
      next.unspent sound live
    rcases chain.of_event token_event unspent with earlier | ⟨-, extends_⟩
    · rcases stored_exchange stored with rfl | ⟨before, -⟩
      · exact next.not_issued sound earlier.issued
      · exact ended.nothing other before earlier
    · rcases sound.cases_of_extends live extends_ with
        ⟨original, rfl⟩ | ⟨_, original, rfl, -, originalStored, originalChain⟩
      · obtain ⟨expiresAt, isStored⟩ := live
        exact (sound.codes _ _ isStored).1 input first exchanged
      · exact ended.nothing original originalStored originalChain

/-- The step issues tokens from the code. -/
def Issues (code : String) (move : Move OAuthSession OAuthStore) : Prop :=
  ∃ other, IssuedFrom move.after.data.history code other ∧
    ¬ IssuedFrom move.before.data.history code other

/-- What is known while the pair goes back to the code. -/
structure SoundFor (code : String) (token : StoredToken) (store : OAuthStore) : Prop where
  sound : store.data.Sound
  chain : IssuedFrom store.data.history code token

theorem leaves_exchange {now : Instant} {input : TokenInput} {grant : Grant} {added : StoredToken}
    (sound : data.Sound) (issued : Issued data.history token) (live : grant.Live data)
    (next : data.Next added) (isOther : ∀ refreshToken, grant ≠ .refresh refreshToken token) :
    data.Leaves (data.exchange now input grant added) token := by
  have newAccess : token.accessToken ≠ added.accessToken := next.ne_access sound issued
  have tokens : (data.storeToken now added).tokens token.accessToken =
      data.tokens token.accessToken := Function.update_of_ne newAccess ..
  have refreshes : (data.storeToken now added).refreshes token.refreshToken =
      data.refreshes token.refreshToken := by
    unfold OAuthData.storeToken
    split
    · rfl
    next given =>
      refine Function.update_of_ne (fun same => ?_) ..
      exact next.ne_refresh sound issued (same ▸ given) same.symm
  cases grant with
  | code code original => exact .inl ⟨tokens, refreshes⟩
  | refresh refreshToken original =>
    obtain ⟨expiresAt, isStored⟩ := live
    obtain ⟨isKey, given, issuedOriginal⟩ := sound.refreshes _ _ isStored
    have apart : token ≠ original := fun same => isOther refreshToken (same ▸ rfl)
    have otherAccess : token.accessToken ≠ original.accessToken := fun same =>
      apart (sound.access token original issued issuedOriginal same)
    have otherRefresh : token.refreshToken ≠ refreshToken := fun same =>
      apart (sound.pairs token original issued issuedOriginal (same.trans isKey.symm)
        (same ▸ given))
    refine .inl ⟨?_, ?_⟩
    · unfold OAuthData.exchange Grant.spendAccessToken
      dsimp only
      split
      · exact tokens
      · exact (Function.update_of_ne otherAccess ..).trans tokens
    · have spent : (data.exchange now input (.refresh refreshToken original) added).refreshes =
          (data.storeToken now added).refreshes.del refreshToken := by
        unfold OAuthData.exchange Grant.spendAccessToken
        dsimp only
        split <;> rfl
      rw [spent]
      exact (Function.update_of_ne otherRefresh ..).trans refreshes

theorem later_of_step {move : Move OAuthSession OAuthStore}
    (known : SoundFor code token move.before) (step : CommandStep move.before move.after)
    (quiet : ¬ Issues code move) : Later code token move.before move.after := by
  have issued : ∀ other, IssuedFrom move.after.data.history code other →
      IssuedFrom move.before.data.history code other := by
    intro other chain
    by_contra isNew
    exact quiet ⟨other, chain, isNew⟩
  have writes := step.writes
  refine ⟨writes.grows, step.now.ge, issued, ?_, ?_⟩
  · generalize move.after.data = after at writes
    intro other issuedOther stored
    cases writes with
    | aside _ fewer => exact fewer.stored stored
    | deleted _ fewer => exact fewer.stored stored
    | requested => exact stored
    | consented => exact stored
    | exchanged now input grant added live next carries =>
      rcases stored_exchange stored with rfl | ⟨before, -⟩
      · exact absurd issuedOther (next.not_issued known.sound)
      · exact before
  · generalize move.after.data = after at writes issued
    cases writes with
    | aside _ _ tokens refreshes => exact .inl ⟨by rw [tokens], by rw [refreshes]⟩
    | deleted _ _ whole => exact whole token known.chain.issued
    | requested => exact .refl _ _
    | consented => exact .refl _ _
    | exchanged now input grant added live next carries =>
      refine leaves_exchange known.sound known.chain.issued live next fun refreshToken same => ?_
      subst same
      obtain ⟨expiresAt, isStored⟩ := live
      have isKey := (known.sound.refreshes _ _ isStored).1
      have grows : move.before.data.history ⊆
          .refreshed refreshToken added :: move.before.data.history := List.subset_cons_self _ _
      have chain : IssuedFrom (.refreshed refreshToken added :: move.before.data.history) code
          added := by
        refine .refreshed token added (known.chain.mono grows) ?_
        rw [isKey]
        exact List.mem_cons_self
      exact next.not_issued known.sound (issued added chain).issued

/-- An access token that is accepted, or a refresh token that is there. -/
def Accepted (store : OAuthStore) (presented : String) (token : StoredToken) : Prop :=
  validateOAuthToken presented store.data store.now = some token ∨
    store.data.refreshes.get store.now presented = some token

inductive Presented (data : OAuthData) (token : StoredToken) (presented : String)
    (expiresAt : Instant) : Prop where
  | access (isAccess : presented = token.accessToken)
      (stored : data.tokens presented = some (token, expiresAt))
  | refresh (isRefresh : presented = token.refreshToken)
      (stored : data.refreshes presented = some (token, expiresAt))

omit [OAuthEnv] in
theorem Presented.stored {presented : String} {expiresAt : Instant}
    (isPresented : Presented data token presented expiresAt) : data.Stored token := by
  cases isPresented with
  | access isAccess stored => exact .inl ⟨expiresAt, isAccess ▸ stored⟩
  | refresh isRefresh stored => exact .inr ⟨expiresAt, isRefresh ▸ stored⟩

theorem presented_of_accepted {store : OAuthStore} {presented : String}
    (sound : store.data.Sound) (accepted : Accepted store presented token) :
    ∃ expiresAt, Presented store.data token presented expiresAt := by
  rcases accepted with valid | valid
  · obtain ⟨expiresAt, stored⟩ := tokens_of_validate valid
    exact ⟨expiresAt, .access (sound.tokens _ _ stored).1.symm stored⟩
  · obtain ⟨expiresAt, stored, -⟩ := ExpiringKeys.get_eq_some.1 valid
    exact ⟨expiresAt, .refresh (sound.refreshes _ _ stored).1.symm stored⟩

section

variable {start known : OAuthStore} {presented : String} {expiresAt : Instant}
  {session : OAuthSession}

/-- Steps of a program while no tokens are issued from the code. -/
abbrev RevocationSteps {α : Type} (code : String) (token : StoredToken)
    (post : α → OAuthStore → Prop) (prog : OAuthProg α) (known : OAuthStore) : Prop :=
  prog.StepsFrom (SoundFor code token) (Later code token) CommandStep post known

theorem steps_of_commands {α : Type} {post : α → OAuthStore → Prop} {prog : OAuthProg α}
    (commands : Commands prog known) (ends : ∀ value store, post value store) :
    RevocationSteps code token post prog known :=
  commands.weaken (fun _ known => known.sound) (fun _ _ isLater => isLater.history)
    fun value store _ => ends value store

theorem Gone.later {store store' : OAuthStore} (gone : Gone token expiresAt store)
    (sound : SoundFor code token store) (isLater : Later code token store store') :
    Gone token expiresAt store' :=
  gone.imp (fun gone stored => gone (isLater.stored token sound.chain.issued stored))
    fun expired => expired.trans isLater.now

/-- What is found is the pair; nothing is found of a pair that is gone. -/
structure Finds (token : StoredToken) (expiresAt : Instant) (found : Option StoredToken)
    (store : OAuthStore) : Prop where
  pair : ∀ other, found = some other → other = token
  gone : found = none → Gone token expiresAt store

theorem steps_findToken (isPresented : Presented start.data token presented expiresAt)
    (given : presented ≠ "") (isLater : Later code token start known) :
    RevocationSteps code token (Finds token expiresAt) (findToken presented) known := by
  refine Prog.StepsFrom.read (fun store _ => .idle store) fun store grows sound => ?_
  have sinceStart := isLater.trans grows
  split
  next other found =>
    have isPair : other = token := by
      obtain ⟨_, stored, -⟩ := ExpiringKeys.get_eq_some.1 found
      obtain ⟨isKey, issued⟩ := sound.sound.tokens _ _ stored
      cases isPresented with
      | access isAccess =>
        exact sound.sound.access other token issued sound.chain.issued (isKey.trans isAccess)
      | refresh isRefresh =>
        exact absurd (isKey.trans isRefresh)
          (sound.sound.apart other token issued sound.chain.issued)
    exact Prog.StepsFrom.pure fun _ _ _ =>
      ⟨fun _ same => (Option.some.inj same).symm.trans isPair, fun impossible => nomatch impossible⟩
  next missing =>
    intro last more _ soundHere
    refine ⟨.idle last, fun _ later grows' _ => ⟨fun other found => ?_, fun notFound => ?_⟩⟩
    · obtain ⟨_, stored, -⟩ := ExpiringKeys.get_eq_some.1 found
      obtain ⟨isKey, -, issued⟩ := soundHere.sound.refreshes _ _ stored
      cases isPresented with
      | access isAccess =>
        exact absurd (isKey.trans isAccess).symm
          (soundHere.sound.apart token other soundHere.chain.issued issued)
      | refresh isRefresh =>
        exact soundHere.sound.pairs other token issued soundHere.chain.issued
          (isKey.trans isRefresh) (isKey ▸ given)
    · cases isPresented with
      | access isAccess stored =>
        have gone : Gone token expiresAt store := by
          refine gone_of_missing stored ?_ missing
          exact sinceStart.leaves.imp_left fun same => isAccess ▸ same.1
        exact gone.later sound (more.trans grows')
      | refresh isRefresh stored =>
        have gone : Gone token expiresAt last := by
          refine gone_of_missing stored ?_ notFound
          exact (sinceStart.trans more).leaves.imp_left fun same => isRefresh ▸ same.2
        exact gone.later soundHere grows'

/-- A revocation that has answered leaves nothing of the pair, if what was presented has not
expired by then. -/
def Revokes (token : StoredToken) (expiresAt : Instant) (result : Except OAuthError OAuthReply)
    (store : OAuthStore) : Prop :=
  ∀ reply, result = .ok reply → store.now < expiresAt → ¬ store.data.Stored token

theorem steps_revokeToken (isPresented : Presented start.data token presented expiresAt)
    (given : presented ≠ "") (isLater : Later code token start known) :
    RevocationSteps code token (Revokes token expiresAt)
      (revokeToken session token.clientId presented) known := by
  refine (steps_findToken isPresented given isLater).bind Later.refl Later.trans
    fun found store _ finds => ?_
  cases found with
  | none =>
    refine Prog.StepsFrom.pure fun later grows sound _ _ inTime => ?_
    exact ((finds later grows sound).gone rfl).resolve_right (not_le.2 inTime)
  | some other =>
    -- whether the pair was found is known in the states in which the rest goes on
    have isPair : ∀ later, Later code token store later → SoundFor code token later →
        other = token := fun later grows sound => (finds later grows sound).pair other rfl
    dsimp only
    split
    next notOwned =>
      refine Prog.StepsFrom.pure fun later grows sound _ _ _ => ?_
      rw [isPair later grows sound] at notOwned
      exact absurd rfl notOwned
    split
    next both =>
      refine Prog.StepsFrom.update (fun later grows sound => ?_) fun later grows sound _ => ?_
      · have same := isPair later grows sound
        subst same
        exact ⟨sound.sound.deleted_pair sound.chain.issued both.2, rfl⟩
      · refine Prog.StepsFrom.pure fun last more _ _ _ _ => ?_
        have same := isPair later grows sound
        subst same
        have gone : ¬ OAuthData.Stored { later.data with
            tokens := later.data.tokens.del other.accessToken
            refreshes := later.data.refreshes.del other.refreshToken } other :=
          not_stored_of_absent (Function.update_self ..) (Function.update_self ..)
        exact fun stored => gone (more.stored other sound.chain.issued stored)
    next alone =>
      have isAlone : ∀ later, Later code token store later → SoundFor code token later →
          token.refreshToken = "" ∧ token.accessToken = presented := by
        intro later grows sound
        have same := isPair later grows sound
        subst same
        refine sound.sound.alone sound.chain.issued alone ?_
        cases isPresented with
        | access isAccess => exact .inl isAccess.symm
        | refresh isRefresh => exact .inr ⟨isRefresh.symm, given⟩
      refine Prog.StepsFrom.update (fun later grows sound => ?_) fun later grows sound _ => ?_
      · obtain ⟨isEmpty, isAccess⟩ := isAlone later grows sound
        subst isAccess
        exact ⟨sound.sound.deleted_access sound.chain.issued isEmpty, rfl⟩
      · obtain ⟨isEmpty, isAccess⟩ := isAlone later grows sound
        have gone : ¬ OAuthData.Stored { later.data with
            tokens := later.data.tokens.del presented } token := by
          refine not_stored_of_absent ?_ ?_
          · rw [isAccess]
            exact Function.update_self ..
          · rw [isEmpty]
            exact sound.sound.refreshes_empty
        refine Prog.StepsFrom.update (fun last more soundLast => ?_) fun last more soundLast _ => ?_
        · subst isAccess
          exact ⟨soundLast.sound.deleted_refresh soundLast.chain.issued, rfl⟩
        · refine Prog.StepsFrom.pure fun _ grows' _ _ _ _ => ?_
          intro stored
          have storedLast : OAuthData.Stored { last.data with
              refreshes := last.data.refreshes.del presented } token :=
            grows'.stored token soundLast.chain.issued stored
          have fewer : last.data.Fewer { last.data with
              refreshes := last.data.refreshes.del presented } :=
            { fewer_del last.data "" presented with tokens := fun _ _ kept => kept }
          exact gone (more.stored token sound.chain.issued (fewer.stored storedLast))

theorem steps_authenticate (input : CredentialsInput) :
    RevocationSteps code token (fun result _ => ∀ client, result = .ok client →
      filled input.extractClientCredentials.clientId = some client.1) (authenticate input) known := by
  unfold authenticate
  dsimp only
  split
  · exact Prog.StepsFrom.pure fun _ _ _ _ impossible => nomatch impossible
  next clientId given =>
    refine Prog.StepsFrom.read (fun store _ => .idle store) fun store _ _ => ?_
    split
    · exact Prog.StepsFrom.pure fun _ _ _ _ same => Except.ok.inj same ▸ given
    · exact Prog.StepsFrom.pure fun _ _ _ _ impossible => nomatch impossible

/-- The request is of the client whose tokens they are. -/
structure RevokeInput.Owns (input : RevokeInput) (presented : String) (token : StoredToken) :
    Prop where
  ofToken : filled input.token = some presented
  ofClient : filled input.credentials.extractClientCredentials.clientId = some token.clientId

theorem steps_revoke {input : RevokeInput} (owns : input.Owns presented token)
    (isPresented : Presented start.data token presented expiresAt)
    (isLater : Later code token start known) :
    RevocationSteps code token (Revokes token expiresAt) (input.revoke session) known := by
  have fails : ∀ (error : OAuthError) (store : OAuthStore), SoundFor code token store →
      Revokes token expiresAt (.error error) store := fun _ _ _ _ impossible => nomatch impossible
  have given : presented ≠ "" := by
    have notEmpty := (Option.filter_eq_some_iff.1 owns.ofToken).2
    simpa using notEmpty
  have rate : RevocationSteps code token (fun result _ => ∀ value, result = .ok value → True)
      (checkOauthRate session input.ip OAUTH_RATE_REVOKE "Too many revocation requests") known :=
    steps_of_commands (commands_rate _ _ _) fun _ _ _ _ => trivial
  refine rate.andThen Later.refl Later.trans fails fun _ store grows _ => ?_
  refine (steps_authenticate input.credentials).andThen Later.refl Later.trans fails
    fun client last more isClient => ?_
  refine Prog.StepsFrom.of_exists fun ⟨later, grows', holds⟩ => ?_
  have same : client.1 = token.clientId :=
    (Option.some.inj (owns.ofClient.symm.trans (isClient later grows' holds))).symm
  rw [owns.ofToken, same]
  exact steps_revokeToken isPresented given ((isLater.trans grows).trans more)

end

section

variable {clients : ExpiringKeys String RegisteredClient} {exposures : List ExposureSettings}
  {restaurants : List McpRestaurant} {now : Instant} {calls : OAuthSession → OAuthCall}
  {first c last : Config OAuthSession OAuthStore (Except OAuthError OAuthReply)}
  {moves : List (Move OAuthSession OAuthStore)} {i : OAuthSession} {input : RevokeInput}
  {presented : String} {expiresAt : Instant} {reply : OAuthReply}

omit [OAuthEnv] in
theorem later_of_ticks {store store' : OAuthStore} (ticks : Ticks store store') :
    Later code token store store' where
  history := by
    unfold HistoryGrows
    rw [ticks.2.1]
    exact List.Subset.refl _
  now := ticks.1
  issued _ chain := ticks.2.1 ▸ chain
  stored _ _ stored := ticks.2.1 ▸ stored
  leaves := by
    rw [ticks.2.1]
    exact .refl _ _

omit [OAuthEnv] in
theorem exchanged_of_issuedFrom {history : List OAuthEvent} (chain : IssuedFrom history code token) :
    ∃ input first, OAuthEvent.exchanged code input first ∈ history := by
  induction chain with
  | exchanged input token event => exact ⟨input, token, event⟩
  | refreshed _ _ _ _ ih => exact ih

theorem ended_of_run (reaches : (oauthSystem calls).Reaches
      (.initial (oauthStart clients exposures restaurants now)) first)
    (isRevocation : calls i = .revoke input) (idle : first.procs i = none)
    (owns : input.Owns presented token) (chain : IssuedFrom first.shared.data.history code token)
    (isPresented : Presented first.shared.data token presented expiresAt)
    (run : (oauthSystem calls).Run first moves c) (quiet : ∀ move ∈ moves, ¬ Issues code move)
    (answered : c.procs i = some (.done (.ok reply))) (inTime : c.shared.now < expiresAt) :
    c.shared.data.Ended code := by
  obtain ⟨_, before⟩ := reaches.run
  have knownBefore := known_of_run before
  -- the revocation counts on what it finds, the others are as in every run
  have revokes : ∀ j store, Later code token first.shared store → SoundFor code token store →
      ((oauthSystem calls).code j).StepsFrom (SoundFor code token) (Later code token) CommandStep
        (fun result store => j = i → Revokes token expiresAt result store) store := by
    intro j store isLater _
    by_cases same : j = i
    · subst same
      unfold oauthSystem system
      dsimp only
      rw [isRevocation]
      exact (steps_revoke owns isPresented isLater).weaken (fun _ holds => holds)
        (fun _ _ isLater => isLater) fun _ _ revoked _ => revoked
    · exact steps_of_commands (commands_prog (calls j)) fun _ _ isRevocation =>
        absurd isRevocation same
  have running : ∀ j prog, first.procs j = some prog →
      prog.StepsFrom (SoundFor code token) (Later code token) CommandStep
        (fun result store => j = i → Revokes token expiresAt result store) first.shared := by
    intro j prog runs
    refine steps_of_commands (knownBefore.progs j prog runs) fun _ _ same => ?_
    subst same
    cases idle.symm.trans runs
  have known : System.Run.Known (oauthSystem calls) (SoundFor code token) (Later code token)
      (fun _ => CommandStep) (fun j result store => j = i → Revokes token expiresAt result store)
      first.shared moves c := by
    refine run.known Later.refl Later.trans revokes ?_ ?_ ?_ ⟨knownBefore.holds, chain⟩ running
      quiet
    · intro move isQuiet sound step
      exact ⟨⟨sound.sound.of_writes step.writes, sound.chain.mono step.writes.grows⟩,
        later_of_step sound step isQuiet⟩
    · exact fun _ store sound => ⟨⟨sound.sound, sound.chain⟩, { Later.refl store with }⟩
    · intro store store' sound ticks
      exact ⟨⟨ticks.2.1 ▸ sound.sound, ticks.2.1 ▸ sound.chain⟩, later_of_ticks ticks⟩
  have revoked : ¬ c.shared.data.Stored token :=
    known.progs i _ answered c.shared (Later.refl _) known.holds rfl reply rfl inTime
  refine ⟨exchanged_of_issuedFrom known.holds.chain, fun other stored chainOther => ?_⟩
  have chainFirst := known.ordered.issued other chainOther
  have storedFirst := known.ordered.stored other chainFirst.issued stored
  have same := knownBefore.holds.single code other token storedFirst isPresented.stored chainFirst chain
  exact revoked (same ▸ stored)

/-- Nothing that was issued from the code is accepted. -/
def Revoked (code : String) (store : OAuthStore) : Prop :=
  ∀ presented token, Accepted store presented token → ¬ IssuedFrom store.data.history code token

theorem OAuthData.Ended.revoked {store : OAuthStore} (ended : store.data.Ended code)
    (sound : store.data.Sound) : Revoked code store := by
  intro presented token accepted chain
  refine ended.nothing token ?_ chain
  obtain ⟨expiresAt, isPresented⟩ := presented_of_accepted sound accepted
  exact isPresented.stored

/-- From a code of which nothing is left, nothing is ever accepted again. -/
theorem ended_of_reaches (known : ∀ j prog, c.procs j = some prog →
      Commands prog c.shared) (sound : c.shared.data.Sound)
    (ended : c.shared.data.Ended code) (later : (oauthSystem calls).Reaches c last) :
    last.shared.data.Sound ∧ last.shared.data.Ended code := by
  obtain ⟨moves, run⟩ := later.run
  have always : ∀ move ∈ moves, True := fun _ _ => trivial
  have commands : ∀ {prog : OAuthProg (Except OAuthError OAuthReply)} {store : OAuthStore},
      Commands prog store → prog.StepsFrom
        (fun store => store.data.Sound ∧ store.data.Ended code) HistoryGrows CommandStep
          (fun _ _ => True) store :=
    fun commands => commands.weaken (fun _ holds => holds.1) (fun _ _ grows => grows)
      fun _ _ _ => trivial
  have endedRun : System.Run.Known (oauthSystem calls)
      (fun store => store.data.Sound ∧ store.data.Ended code) HistoryGrows (fun _ => CommandStep)
      (fun _ _ _ => True) c.shared moves last := by
    refine run.known (fun _ => List.Subset.refl _) List.Subset.trans
      (fun i store _ _ => commands (commands_prog (calls i))) ?_ ?_ ?_ ⟨sound, ended⟩
      (fun i prog runs => commands (known i prog runs)) always
    · intro move _ holds step
      exact ⟨⟨holds.1.of_writes step.writes, holds.2.of_writes holds.1 step.writes⟩,
        step.writes.grows⟩
    · exact fun _ _ holds => ⟨holds, List.Subset.refl _⟩
    · intro store store' holds ticks
      have same : store'.data = store.data := ticks.2.1
      unfold HistoryGrows
      rw [same]
      exact ⟨holds, List.Subset.refl _⟩
  exact endedRun.holds

/-- Whatever else runs, what was issued from a code is revoked for good once a revocation of some
of it has answered before what it presented expires, as long as no tokens were issued from the code
in the meantime. -/
theorem revoked_of_run (reaches : (oauthSystem calls).Reaches
      (.initial (oauthStart clients exposures restaurants now)) first)
    (isRevocation : calls i = .revoke input) (idle : first.procs i = none)
    (owns : input.Owns presented token) (accepted : Accepted first.shared presented token)
    (chain : IssuedFrom first.shared.data.history code token)
    (run : (oauthSystem calls).Run first moves c)
    (answered : c.procs i = some (.done (.ok reply)))
    (quiet : ∀ move ∈ moves, ¬ Issues code move)
    (inTime : ∀ expiresAt, Presented first.shared.data token presented expiresAt →
      c.shared.now < expiresAt)
    (later : (oauthSystem calls).Reaches c last) : Revoked code last.shared := by
  obtain ⟨_, before⟩ := reaches.run
  obtain ⟨expiresAt, isPresented⟩ := presented_of_accepted (known_of_run before).holds accepted
  have ended := ended_of_run reaches isRevocation idle owns chain isPresented run quiet answered
    (inTime expiresAt isPresented)
  have known := known_of_run (before.trans run)
  obtain ⟨sound, endedLater⟩ := ended_of_reaches known.progs known.holds ended later
  exact endedLater.revoked sound

end

end

section

attribute [local instance] OAuthEnv.sample

def sampleRevoke : RevokeInput :=
  ⟨"127.0.0.1", ⟨some "claude", none, none⟩, some "uuu"⟩

/-- What the first exchange handed out is revoked, and may be refreshed. -/
def revocationCalls (session : OAuthSession) : OAuthCall :=
  match session with
  | 3 => .revoke sampleRevoke
  | _ => sampleCalls session

theorem owns_sampleRevoke : sampleRevoke.Owns "uuu" sampleToken := ⟨rfl, rfl⟩

def refreshedToken : StoredToken :=
  { sampleToken with accessToken := "uuuuu", refreshToken := "uuuuuu" }

/-- The request, its consent and the exchange of the code. -/
def grantOrder : List OAuthSession :=
  List.replicate 4 0 ++ List.replicate 5 1 ++ List.replicate 5 2

/-- The tokens are there, and the revocation has not begun. -/
def showsGrant (c : Config OAuthSession OAuthStore (Except OAuthError OAuthReply)) : Bool :=
  (c.procs 3).isNone && c.shared.data.tokens "uuu" == some (sampleToken, 2592000000) &&
    c.shared.now == 0 && c.shared.data.refreshes "uuu" == none &&
      c.shared.data.history.head? == some (.exchanged "uu" sampleExchange sampleToken)

/-- What the revocation of the sample tokens starts from. -/
structure GrantShown (c : Config OAuthSession OAuthStore (Except OAuthError OAuthReply)) : Prop where
  idle : c.procs 3 = none
  accepted : Accepted c.shared "uuu" sampleToken
  chain : IssuedFrom c.shared.data.history "uu" sampleToken
  expires : ∀ expiresAt, Presented c.shared.data sampleToken "uuu" expiresAt →
    expiresAt = 2592000000

theorem grantShown {c : Config OAuthSession OAuthStore (Except OAuthError OAuthReply)}
    (shows : showsGrant c) : GrantShown c := by
  simp only [showsGrant, Bool.and_eq_true, beq_iff_eq, Option.isNone_iff_eq_none] at shows
  obtain ⟨⟨⟨⟨idle, stored⟩, atStart⟩, notRefresh⟩, event⟩ := shows
  refine ⟨idle, .inl ?_, .exchanged sampleExchange sampleToken ?_, fun expiresAt isPresented => ?_⟩
  · simp [validateOAuthToken, ExpiringKeys.get, stored, atStart, sampleToken]
    decide
  · exact List.mem_of_mem_head? event
  · cases isPresented with
    | access _ isStored => exact congrArg Prod.snd (Option.some.inj (isStored.symm.trans stored))
    | refresh _ isStored => cases notRefresh.symm.trans isStored

theorem isOk_of_map {ε α : Type} {result : Option (Except ε α)}
    (shown : result.map Except.isOk = some true) : ∃ value, result = some (.ok value) := by
  obtain ⟨result, rfl, isOk⟩ := Option.map_eq_some_iff.1 shown
  cases result with
  | error error => cases isOk
  | ok value => exact ⟨value, rfl⟩

/-- A revocation with nothing else going on. -/
theorem revoked_sample : ∃ first moves c, (oauthSystem revocationCalls).Reaches
      (.initial sampleStart) first ∧ Accepted first.shared "uuu" sampleToken ∧
        (oauthSystem revocationCalls).Run first moves c ∧ Revoked "uu" c.shared := by
  have scheduled : ((oauthSystem revocationCalls).schedule grantOrder (.initial sampleStart)).bind
      (fun first => ((oauthSystem revocationCalls).schedule (List.replicate 5 3) first.2).map
        fun rest => (showsGrant first.2, (rest.2.result? 3).map Except.isOk, rest.2.shared.now,
          rest.1.all fun move => move.after.data.history == move.before.data.history)) =
      some (true, some true, 0, true) := by
    decide +kernel
  obtain ⟨⟨_, first⟩, ran, continued⟩ := Option.bind_eq_some_iff.1 scheduled
  obtain ⟨⟨moves, c⟩, ranMore, shown⟩ := Option.map_eq_some_iff.1 continued
  simp only [Prod.mk.injEq] at shown
  obtain ⟨grant, answered, atEnd, keeps⟩ := shown
  obtain ⟨reply, isResult⟩ := isOk_of_map answered
  have reaches := (System.run_schedule ran).reaches
  have run := System.run_schedule ranMore
  have quiet : ∀ move ∈ moves, ¬ Issues "uu" move := by
    intro move isMove ⟨other, after, before⟩
    have same := eq_of_beq (List.all_eq_true.1 keeps move isMove)
    exact before (same ▸ after)
  refine ⟨first, moves, c, reaches, (grantShown grant).accepted, run, ?_⟩
  refine revoked_of_run reaches rfl (grantShown grant).idle owns_sampleRevoke
    (grantShown grant).accepted (grantShown grant).chain run (Config.procs_of_result? isResult) quiet
    ?_ .refl
  intro expiresAt isPresented
  rw [(grantShown grant).expires expiresAt isPresented, atEnd]
  decide

/-- A refresh between the look-up and the deletion: the pair that is deleted is gone already, and
the tokens that took its place stay valid. -/
theorem refreshed_not_revoked : ∃ first moves c reply, (oauthSystem revocationCalls).Reaches
      (.initial sampleStart) first ∧ first.procs 3 = none ∧ sampleRevoke.Owns "uuu" sampleToken ∧
        Accepted first.shared "uuu" sampleToken ∧
          IssuedFrom first.shared.data.history "uu" sampleToken ∧
            (oauthSystem revocationCalls).Run first moves c ∧
              c.procs 3 = some (.done (.ok reply)) ∧ ¬ Revoked "uu" c.shared := by
  have scheduled : ((oauthSystem revocationCalls).schedule grantOrder (.initial sampleStart)).bind
      (fun first => ((oauthSystem revocationCalls).schedule
          (List.replicate 4 3 ++ List.replicate 5 4 ++ [3]) first.2).map fun rest =>
        (showsGrant first.2, (rest.2.result? 3).map Except.isOk,
          validateOAuthToken "uuuuu" rest.2.shared.data rest.2.shared.now == some refreshedToken,
            rest.2.shared.data.history.take 2 == [.refreshed "uuuu" refreshedToken,
              .exchanged "uu" sampleExchange sampleToken])) =
      some (true, some true, true, true) := by
    decide +kernel
  obtain ⟨⟨_, first⟩, ran, continued⟩ := Option.bind_eq_some_iff.1 scheduled
  obtain ⟨⟨moves, c⟩, ranMore, shown⟩ := Option.map_eq_some_iff.1 continued
  simp only [Prod.mk.injEq] at shown
  obtain ⟨grant, answered, isValid, events⟩ := shown
  obtain ⟨reply, isResult⟩ := isOk_of_map answered
  have happened : ∀ event ∈ c.shared.data.history.take 2, event ∈ c.shared.data.history :=
    fun _ isEvent => List.mem_of_mem_take isEvent
  rw [eq_of_beq events] at happened
  have chain : IssuedFrom c.shared.data.history "uu" refreshedToken :=
    .refreshed sampleToken refreshedToken
      (.exchanged sampleExchange sampleToken (happened _ (by simp)))
      (happened _ List.mem_cons_self)
  refine ⟨first, moves, c, reply, (System.run_schedule ran).reaches, (grantShown grant).idle,
    owns_sampleRevoke, (grantShown grant).accepted, (grantShown grant).chain,
    System.run_schedule ranMore, Config.procs_of_result? isResult, fun revoked => ?_⟩
  exact revoked "uuuuu" refreshedToken (.inl (eq_of_beq isValid)) chain

end

end Sokar.OAuth
