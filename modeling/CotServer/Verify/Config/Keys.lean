import CotServer.Model.Config.Keys
import CotServer.Model.Sample
import CotServer.Theory.RelyGuarantee

/-!
# Entries of the key maps are written once

An injection looks at the map in the segment that writes to it, so it replaces nothing. A call of
`initExternalAccount` looks before its awaits and writes after them: what has been injected or
initialised in between is replaced. When every such call finds the map without an entry, or with
the account that it derived, the entries stay as they are in every run.
-/

namespace CotServer

open Async Account

/-- Every entry of the external key maps has stayed as it was. -/
def AccountStore.KeysKept (s s' : AccountStore) : Prop :=
  ∀ w chainName assetType account, s.externalkeypairMap w chainName assetType = some account →
    s'.externalkeypairMap w chainName assetType = some account

/-- Every entry of the internal key map has stayed as it was. -/
def MemoryStore.KeysKept (s s' : MemoryStore) : Prop :=
  ∀ accountType keypair, s.rwkeypairMap accountType = some keypair →
    s'.rwkeypairMap accountType = some keypair

theorem AccountStore.KeysKept.refl (s : AccountStore) : s.KeysKept s := fun _ _ _ _ h => h

theorem MemoryStore.KeysKept.refl (s : MemoryStore) : s.KeysKept s := fun _ _ h => h

/-- The entry that an account may be written to: there is none, or it is this account. -/
def AccountStore.vacant (s : AccountStore) (w : Worker) (chainName : ExternalChainName)
    (assetType : JsString) (account : WalletAccount) : Bool :=
  match s.externalkeypairMap w chainName assetType with
  | none => true
  | some entry => entry = account

/-- A call of `initExternalAccount` goes on with the account it derived only where the map has no
other account for its chain and asset. -/
def initsVacant : AccountStore → Action KeyCall.Ans Err KeyCall AccountChoice → Bool
  | s, .resume (.initExternalAccount w chainName assetType, .transformAccount ..) (.ok account) =>
    s.vacant w chainName assetType account
  | _, _ => true

/-- Writing an account where there is no other keeps all entries. -/
theorem keysKept_setMap {s : AccountStore} {w : Worker} {chainName : ExternalChainName}
    {assetType : JsString} {account : WalletAccount}
    (h : s.vacant w chainName assetType account = true) :
    s.KeysKept (setMap w chainName assetType account s) := by
  intro w' chainName' assetType' entry hentry
  by_cases hw : w' = w
  · subst hw
    by_cases hchain : chainName' = chainName
    · subst hchain
      by_cases hasset : assetType' = assetType
      · subst hasset
        simp only [AccountStore.vacant, hentry, decide_eq_true_eq] at h
        subst h
        simp [setMap]
      · simpa [setMap, hasset] using hentry
    · simpa [setMap, hchain] using hentry
  · simpa [setMap, hw] using hentry

variable (env : AccountEnv) (parseMnemonic : JsString → Except Err JsString)

/-- Entries stay as they are. -/
def keyLogic : Logic (keyProgram env parseMnemonic) where
  Inv _ := True
  Rel := AccountStore.KeysKept
  Allowed s a := initsVacant s a = true
  refl := .refl
  trans h h' w chainName assetType account hentry :=
    h' w chainName assetType account (h w chainName assetType account hentry)

/-- Entries of the internal key map stay as they are, whatever the run. -/
def memoryLogic (env : MemoryEnv) : Logic (memoryProgram env) where
  Inv _ := True
  Rel := MemoryStore.KeysKept
  Allowed _ _ := True
  refl := .refl
  trans h h' accountType keypair hentry := h' accountType keypair (h accountType keypair hentry)

variable {env parseMnemonic}

/-! ## The calls on the external key map -/

/-- No answer writes to a key map. -/
theorem AccountOp.answer_keys {op : AccountOp} {choice : AccountChoice} {s s' : AccountStore}
    {r : Except Err op.Ans} (h : op.answer env choice s = some (r, s')) :
    s'.externalkeypairMap = s.externalkeypairMap := by
  cases choice with
  | fails e =>
    cases h
    rfl
  | done =>
    cases op with
    | getServerKeypair | getKeyValue keyName | setKeyValue keyName value =>
      cases h
      rfl
    | transformAccount chainName secret =>
      have hs : s = s' := congrArg Prod.snd (Option.some.inj h)
      rw [hs]

variable {s : AccountStore} {call : KeyCall}

theorem triple_awaited {op : AccountOp} :
    (keyLogic env parseMnemonic).Triple (Async.call (call, op)) s fun _ _ => True := by
  refine Logic.triple_call (G := fun _ _ => True) trivial ?_ fun _ _ _ _ _ _ _ => trivial
  intro t _ _ o r u hans _
  refine ⟨⟨trivial, ?_⟩, trivial⟩
  intro w chainName assetType account hentry
  rw [AccountOp.answer_keys hans]
  exact hentry

theorem triple_return {α : Type} {a : α} :
    (keyLogic env parseMnemonic).Triple (pure a) s fun _ _ => True :=
  Logic.triple_pure trivial trivial

/-- An update of the fields that are not a key map. -/
theorem triple_aside {f : AccountStore → AccountStore}
    (h : (f s).externalkeypairMap = s.externalkeypairMap) :
    (keyLogic env parseMnemonic).Triple (update f) s fun _ _ => True := by
  refine Logic.triple_update ⟨trivial, ?_⟩ trivial
  intro w chainName assetType account hentry
  rw [h]
  exact hentry

section Init

variable {w : Worker} {chainName : ExternalChainName} {assetType : JsString}

/-- Deriving an account and writing it to the map. -/
theorem triple_deriveAndSet {secret : JsString} :
    (keyLogic env parseMnemonic).Triple (Async.tagged (.initExternalAccount w chainName assetType)
      (do
        let account ← transformAccount chainName secret
        update (setMap w chainName assetType account)
        return account)) s fun _ _ => True := by
  simp only [tagged_bind, transformAccount, tagged_call, tagged_update, tagged_pure]
  have hderive : (keyLogic env parseMnemonic).Triple
      (Async.call (KeyCall.initExternalAccount w chainName assetType,
        AccountOp.transformAccount chainName secret)) s
      fun account t => t.vacant w chainName assetType account = true := by
    refine Logic.triple_call (G := fun _ _ => True) trivial ?_ ?_
    · intro t _ _ o r u hans _
      refine ⟨⟨trivial, ?_⟩, trivial⟩
      intro w' chainName' assetType' account hentry
      rw [AccountOp.answer_keys hans]
      exact hentry
    · intro account _ u _ _ _ hall
      exact hall
  refine hderive.bind fun account t _ _ hvacant => ?_
  have hset : (keyLogic env parseMnemonic).Triple (update (setMap w chainName assetType account))
      t fun _ _ => True := Logic.triple_update ⟨trivial, keysKept_setMap hvacant⟩ trivial
  exact hset.bind fun _ _ _ _ _ => triple_return

theorem triple_generateMnemonic_keys :
    (keyLogic env parseMnemonic).Triple ((generateMnemonic env).tagged call) s
      fun _ _ => True := by
  unfold generateMnemonic
  simp only [tagged_bind, tagged_store, tagged_update, tagged_pure]
  refine Logic.triple_store ?_
  exact (triple_aside rfl).bind fun _ _ _ _ _ => triple_return

theorem triple_initAccount_keys :
    (keyLogic env parseMnemonic).Triple (Async.tagged (.initExternalAccount w chainName assetType)
      (initAccount env w chainName assetType)) s fun _ _ => True := by
  unfold initAccount getServerKeypair setKeyValue
  rw [tagged_bind, tagged_call]
  refine triple_awaited.bind fun secretKey t _ _ _ => ?_
  rw [tagged_bind]
  refine triple_generateMnemonic_keys.bind fun mnemonic u _ _ _ => ?_
  rw [tagged_bind, tagged_call]
  exact triple_awaited.bind fun _ _ _ _ _ => triple_deriveAndSet

theorem triple_initExternalAccount_keys :
    (keyLogic env parseMnemonic).Triple (Async.tagged (.initExternalAccount w chainName assetType)
      (initExternalAccount env w chainName assetType)) s fun _ _ => True := by
  unfold initExternalAccount getServerKeypair getKeyValue
  rw [tagged_bind, tagged_call]
  refine triple_awaited.bind fun _ t _ _ _ => ?_
  rw [tagged_bind, tagged_store]
  refine Logic.triple_store ?_
  split
  · exact triple_return
  rw [tagged_bind, tagged_call]
  refine triple_awaited.bind fun secretKey u _ _ _ => ?_
  rw [tagged_bind, tagged_call]
  refine triple_awaited.bind fun found v _ _ _ => ?_
  split
  · split
    · exact Logic.triple_throw trivial
    · exact triple_deriveAndSet
  · exact triple_initAccount_keys

end Init

section Inject

variable {w : Worker} {chainName : ExternalChainName} {assetType : JsString}

/-- The map is looked at in the segment that writes to it. -/
theorem triple_setExternalKeypair {account : WalletAccount} :
    (keyLogic env parseMnemonic).Triple
      ((setExternalKeypair w chainName assetType account).tagged call) s fun _ _ => True := by
  unfold setExternalKeypair
  rw [tagged_bind, tagged_store]
  refine Logic.triple_store ?_
  split
  · exact triple_return
  next hnone =>
  have hvacant : s.vacant w chainName assetType account = true := by
    rw [Bool.not_eq_true, Option.isSome_eq_false_iff, Option.isNone_iff_eq_none] at hnone
    simp only [AccountStore.vacant, hnone]
  rw [tagged_bind, tagged_update]
  have hset : (keyLogic env parseMnemonic).Triple (update (setMap w chainName assetType account))
      s fun _ _ => True := Logic.triple_update ⟨trivial, keysKept_setMap hvacant⟩ trivial
  exact hset.bind fun _ _ _ _ _ => triple_return

theorem triple_injectExternalAddress {keypairStr : JsString} :
    (keyLogic env parseMnemonic).Triple
      ((injectExternalAddress env w chainName assetType parseMnemonic keypairStr).tagged call) s
      fun _ _ => True := by
  unfold injectExternalAddress getServerKeypair transformAccount
  rw [tagged_bind, tagged_call]
  refine triple_awaited.bind fun secretKey t _ _ _ => ?_
  split
  · exact triple_return
  rw [tagged_tryCatch]
  refine Logic.Triple.tryCatch ?_ fun _ _ _ _ => triple_return
  rw [tagged_bind, tagged_settle]
  refine (Logic.triple_settle (Q := fun _ _ => True) trivial fun _ _ => trivial).bind
    fun mnemonic u _ _ _ => ?_
  rw [tagged_bind, tagged_call]
  exact triple_awaited.bind fun _ _ _ _ _ => triple_setExternalKeypair

end Inject

/-- Every call keeps the entries. -/
theorem triple_keyCall :
    (keyLogic env parseMnemonic).Triple ((call.function env parseMnemonic).tagged call) s
      fun _ _ => True := by
  cases call with
  | initExternalAccount w chainName assetType =>
    rw [KeyCall.function, initExternalAccountCall, tagged_bind]
    refine triple_initExternalAccount_keys.bind fun account t _ _ _ => ?_
    rw [tagged_update]
    exact triple_aside rfl
  | injectExternalAddress chainName assetType keypairStr =>
    rw [KeyCall.function, tagged_bind]
    exact triple_injectExternalAddress.bind fun _ _ _ _ _ => triple_return

/-! ## The calls on the internal key map -/

section Memory

open MemoryService

variable {env : MemoryEnv} {s : MemoryStore}

theorem MemoryOp.answer_store {op : MemoryOp} {choice : AccountChoice} {s' : MemoryStore}
    {r : Except Err op.Ans} (h : op.answer env choice s = some (r, s')) : s' = s := by
  cases choice with
  | fails e =>
    cases h
    rfl
  | done =>
    cases op with
    | getServerKeypair =>
      cases h
      rfl
    | createKeypair secret => exact (congrArg Prod.snd (Option.some.inj h)).symm

theorem triple_memoryCall {op : MemoryOp} :
    (memoryLogic env).Triple (Async.call op) s fun _ _ => True := by
  refine Logic.triple_call (G := fun _ _ => True) trivial ?_ fun _ _ _ _ _ _ _ => trivial
  intro t _ _ o r u hans _
  rw [MemoryOp.answer_store hans]
  exact ⟨Logic.Seg.refl trivial, trivial⟩

/-- An entry is written only where there is none. -/
theorem triple_setRWKeypair {accountType : JsString} {keypair : AccountType} :
    (memoryLogic env).Triple (setRWKeypair accountType keypair) s fun _ _ => True := by
  unfold setRWKeypair
  refine Logic.triple_store ?_
  split
  · exact Logic.triple_pure trivial trivial
  next hnone =>
  have hset : (memoryLogic env).Triple (update fun s : MemoryStore =>
      { s with rwkeypairMap := Function.update s.rwkeypairMap accountType (some keypair) }) s
      fun _ _ => True := by
    refine Logic.triple_update ⟨trivial, ?_⟩ trivial
    intro accountType' keypair' hentry
    have hne : accountType' ≠ accountType := by
      intro heq
      rw [heq] at hentry
      simp [hentry] at hnone
    simpa [hne] using hentry
  exact hset.bind fun _ _ _ _ _ => Logic.triple_pure trivial trivial

theorem triple_injectRWAddress {accountType keypairStr : JsString} :
    (memoryLogic env).Triple (injectRWAddress env accountType keypairStr) s fun _ _ => True := by
  unfold injectRWAddress MemoryService.getServerKeypair MemoryService.createKeypair
  refine triple_memoryCall.bind fun serverKeypair t _ _ _ => ?_
  split
  · exact Logic.triple_pure trivial trivial
  refine Logic.Triple.tryCatch ?_ fun _ _ _ _ => Logic.triple_pure trivial trivial
  refine (Logic.triple_settle (Q := fun _ _ => True) trivial fun _ _ => trivial).bind
    fun secret u _ _ _ => ?_
  exact triple_memoryCall.bind fun _ _ _ _ _ => triple_setRWKeypair

/-- Entries stay in every run of injections. -/
theorem memory_onward {c c' : Pool MemoryStore MemoryOp.Ans Err Unit}
    {ls : List (Label (JsString × JsString) AccountChoice)} (hpool : (memoryLogic env).PoolOk c)
    (hrun : (memoryProgram env).system.run c ls = some c') : (memoryLogic env).Onward c c' := by
  refine Logic.onward ?_ hpool ((System.meets_true c ls).mono fun _ _ _ _ _ => trivial) hrun
  intro call t _ _ u p hstart
  cases hstart
  have hcall : (memoryLogic env).Triple (do
      let _ : Bool ← injectRWAddress env call.1 call.2) t fun _ _ => True :=
    triple_injectRWAddress.bind fun _ _ _ _ _ => Logic.triple_pure trivial trivial
  exact hcall.start (Logic.Seg.refl trivial)

end Memory

/-- In every run in which a call of `initExternalAccount` finds no other account in the map where it
writes, and in every run of injections of internal accounts, an entry that is there stays. -/
theorem keys_written_once (env : AccountEnv) (parseMnemonic : JsString → Except Err JsString)
    (memoryEnv : MemoryEnv) :
    (∀ (s : AccountStore) ls ls' c c',
      (keyProgram env parseMnemonic).system.run ⟨s, []⟩ ls = some c →
      (keyProgram env parseMnemonic).system.run c ls' = some c' →
      (keyProgram env parseMnemonic).system.Meets (Program.Allows fun s a => initsVacant s a = true)
        ⟨s, []⟩ (ls ++ ls') → c.store.KeysKept c'.store) ∧
      ∀ (s : MemoryStore) ls ls' c c', (memoryProgram memoryEnv).system.run ⟨s, []⟩ ls = some c →
        (memoryProgram memoryEnv).system.run c ls' = some c' → c.store.KeysKept c'.store := by
  constructor
  · intro s ls ls' c c' hrun hrun' hmeets
    have hevent : ∀ call (t : AccountStore), (keyLogic env parseMnemonic).Inv t →
        (keyLogic env parseMnemonic).Allowed t (.event call) →
        (keyLogic env parseMnemonic).EventOk call t := by
      intro call t hI _ u p hstart
      cases hstart
      exact triple_keyCall.start (Logic.Seg.refl hI)
    obtain ⟨hmeets, hmeets'⟩ := System.meets_append hrun hmeets
    have hpool := Logic.sound hevent (Logic.PoolOk.idle trivial) hmeets hrun
    exact (Logic.onward hevent hpool hmeets' hrun').2
  · intro s ls ls' c c' hrun hrun'
    have hpool : (memoryLogic memoryEnv).PoolOk c := (memory_onward (.idle trivial) hrun).1
    exact (memory_onward hpool hrun').2

/-! ## Samples -/

namespace Sample

def initCall : KeyCall := .initExternalAccount orderWorker .ETH (js "USDT")

def injectCall : KeyCall := .injectExternalAddress .ETH (js "USDT") (js "#other")

/-- A secret is injected while the call waits for its account to be derived. -/
def injectedInBetween : List (Label KeyCall AccountChoice) :=
  .event initCall :: Program.awaits 0 .done 5 ++ .event injectCall :: Program.awaits 1 .done 2

/-- The injection comes after the call. -/
def injectedAfterwards : List (Label KeyCall AccountChoice) :=
  .event injectCall :: Program.awaits 0 .done 2

def memoryEnv : MemoryEnv where
  clientPublicKey := js "client"
  serverKeypair := ⟨js "public", js "server"⟩
  asymmetricDecrypt := accountEnv.asymmetricDecrypt
  parseSecret text := .ok text
  createKeypair secret := .ok ⟨js "p" ++ secret, js "s" ++ secret⟩

def injectRW (secret : JsString) : List (Label (JsString × JsString) AccountChoice) :=
  .event (js "airdrop", js "#" ++ secret) :: Program.awaits 0 .done 2

def entry (c : Pool AccountStore KeyCall.Ans Err KeyCall) : Option JsString :=
  (c.store.externalkeypairMap orderWorker .ETH (js "USDT")).map (·.secret)

def rwEntry (c : Pool MemoryStore MemoryOp.Ans Err Unit) : Option JsString :=
  (c.store.rwkeypairMap (js "airdrop")).map (·.secret)

end Sample

/-- A second secret is injected into both maps, and changes neither. -/
theorem keys_written_once_sample :
    (∃ c c', (keyProgram Sample.accountEnv .ok).system.run ⟨{}, []⟩
        (.event Sample.initCall :: Program.awaits 0 .done 6) = some c ∧
      (keyProgram Sample.accountEnv .ok).system.run c Sample.injectedAfterwards = some c' ∧
      (Sample.entry c).isSome ∧ c.store.KeysKept c'.store) ∧
      ∃ c c', (memoryProgram Sample.memoryEnv).system.run ⟨{}, []⟩ (Sample.injectRW (js "a")) =
          some c ∧
        (memoryProgram Sample.memoryEnv).system.run c (Sample.injectRW (js "b")) = some c' ∧
        Sample.rwEntry c = some (js "a") ∧ c.store.KeysKept c'.store := by
  obtain ⟨hkeys, hmemory⟩ := keys_written_once Sample.accountEnv .ok Sample.memoryEnv
  constructor
  · obtain ⟨c, c', hrun, hrun', hentry⟩ : ∃ c c',
        (keyProgram Sample.accountEnv .ok).system.run ⟨{}, []⟩
          (.event Sample.initCall :: Program.awaits 0 .done 6) = some c ∧
        (keyProgram Sample.accountEnv .ok).system.run c Sample.injectedAfterwards = some c' ∧
        (Sample.entry c).isSome := ⟨_, _, rfl, rfl, rfl⟩
    refine ⟨c, c', hrun, hrun', hentry, ?_⟩
    exact hkeys _ _ _ c c' hrun hrun' (Program.meets_of_checks _ rfl)
  · obtain ⟨c, c', hrun, hrun', hentry⟩ : ∃ c c',
        (memoryProgram Sample.memoryEnv).system.run ⟨{}, []⟩ (Sample.injectRW (js "a")) = some c ∧
        (memoryProgram Sample.memoryEnv).system.run c (Sample.injectRW (js "b")) = some c' ∧
        Sample.rwEntry c = some (js "a") := ⟨_, _, rfl, rfl, rfl⟩
    exact ⟨c, c', hrun, hrun', hentry, hmemory _ _ _ c c' hrun hrun'⟩

/-- An injected account is replaced by the one that a suspended call has derived. -/
theorem keys_not_written_once :
    ¬ ∀ (env : AccountEnv) (parseMnemonic : JsString → Except Err JsString) (s : AccountStore)
      ls ls' c c', (keyProgram env parseMnemonic).system.run ⟨s, []⟩ ls = some c →
        (keyProgram env parseMnemonic).system.run c ls' = some c' →
        c.store.KeysKept c'.store := by
  intro h
  obtain ⟨c, c', hrun, hrun', hentry, hentry'⟩ : ∃ c c',
      (keyProgram Sample.accountEnv .ok).system.run ⟨{}, []⟩ Sample.injectedInBetween = some c ∧
      (keyProgram Sample.accountEnv .ok).system.run c (Program.awaits 0 .done 1) = some c' ∧
      Sample.entry c = some (js "other") ∧ Sample.entry c' = some (js "mnemonic") :=
    ⟨_, _, rfl, rfl, rfl, rfl⟩
  have hkept := h Sample.accountEnv .ok {} _ _ c c' hrun hrun'
  obtain ⟨account, hmap, hsecret⟩ := Option.map_eq_some_iff.1 hentry
  have hmap' : Sample.entry c' = some account.secret :=
    Option.map_eq_some_iff.2 ⟨account, hkept _ _ _ account hmap, rfl⟩
  rw [hmap', hsecret] at hentry'
  exact absurd hentry' (by decide)

end CotServer
