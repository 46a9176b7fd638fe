import CotServer.Model.Sample
import CotServer.Verify.Service

/-!
# One airdrop for each chain and address

A request that reads a balance of zero looks for an airdrop to the address and creates one when it
finds none. Two requests can both find none, and a request can find the airdrop of another chain.
When neither happens, exactly one airdrop exists once a request has been answered.
-/

namespace CotServer

open Async Service RechargeService

variable (env : ServiceEnv) (chain address : JsString)

/-- An airdrop to the address on the chain. -/
def RechargeOrder.isAirdrop (order : RechargeOrder) : Bool :=
  order.rechargeType = .AIRDROP ∧ order.internalChain = chain ∧ order.internalAddress = address

def ServiceStore.airdrops (s : ServiceStore) : List RechargeOrder :=
  s.rechargeOrders.filter (·.isAirdrop chain address)

abbrev RechargeAction := @Action (RechargeV2ReqDto × ServiceOp) (fun x => x.2.Ans) Err
  RechargeV2ReqDto ServiceChoice

/-- The balance of the address on the chain is only ever read as zero. -/
def readsZero : RechargeAction → Bool
  | .answer (_, .getInternalAccountBalance chainName internalAddress _) (.amount n) =>
    chainName = chain → internalAddress = address → n = 0
  | _ => true

/-- An airdrop is saved only while there is none for its chain and address, and a request for the
chain that finds an airdrop to its address finds the chain's own there. -/
def airdropsApart : ServiceStore → RechargeAction → Bool
  | s, .answer (_, .saveRechargeOrder order) .done =>
    order.isAirdrop chain address → s.airdrops chain address = []
  | s, .answer (dto, .findOneRechargeOrder internalAddress .AIRDROP) .done =>
    dto.message.chainName = chain → internalAddress = address →
      (∃ order ∈ s.rechargeOrders, order.internalAddress = address ∧
        order.rechargeType = .AIRDROP) → s.airdrops chain address ≠ []
  | _, _ => true

/-- At most one airdrop, and an airdrop that is there stays. -/
def airdropLogic : Logic (Program.calls (ServiceOp.answer env) (rechargeV2 env)) where
  Inv s := (s.airdrops chain address).length ≤ 1
  Rel s s' := s.airdrops chain address ≠ [] → s'.airdrops chain address ≠ []
  Allowed s a := readsZero chain address a = true ∧ airdropsApart chain address s a = true
  refl _ h := h
  trans h h' hs := h' (h hs)

/-- What an answered request for the chain and the address has established. -/
def Airdropped (dto : RechargeV2ReqDto) (s : ServiceStore) : Prop :=
  dto.message.chainName = chain → dto.message.address = address → s.airdrops chain address ≠ []

/-- The operation creates an airdrop to the address on the chain. -/
def ServiceOp.savesAirdrop : ServiceOp → Bool
  | saveRechargeOrder order => order.isAirdrop chain address
  | _ => false

variable {env chain address} {dto : RechargeV2ReqDto} {s s' : ServiceStore} {α β : Type}

theorem answer_airdrops {op : ServiceOp} {o : ServiceChoice} {r : Except Err op.Ans}
    (hop : op.savesAirdrop chain address = false) (h : op.answer env o s = some (r, s')) :
    s'.airdrops chain address = s.airdrops chain address := by
  cases op with
  | saveRechargeOrder order =>
    cases o <;> cases h
    · rfl
    · rw [ServiceOp.savesAirdrop] at hop
      simp [ServiceStore.airdrops, hop]
  | saveRedemptionOrder order =>
    obtain ⟨_, _, rfl⟩ | ⟨_, _, rfl⟩ := answer_saveRedemptionOrder h <;> rfl
  | _ =>
    cases o <;> cases h <;> rfl

/-- A step that creates no airdrop. -/
theorem seg_airdrops (h : s'.airdrops chain address = s.airdrops chain address)
    (hI : (airdropLogic env chain address).Inv s) : (airdropLogic env chain address).Seg s s' := by
  have hI' : (s'.airdrops chain address).length ≤ 1 := by
    rw [h]
    exact hI
  refine ⟨hI', ?_⟩
  intro hs
  rw [h]
  exact hs

/-! ## Functions that create no airdrop -/

variable (env chain address dto) in
/-- The function keeps to the logic. -/
def KeepsAirdrops (p : Service α) : Prop :=
  ∀ s, (airdropLogic env chain address).Inv s →
    (airdropLogic env chain address).Triple (p.tagged dto) s fun _ _ => True

namespace KeepsAirdrops

theorem pure (a : α) : KeepsAirdrops env chain address dto (Pure.pure a) :=
  fun _ hI => Logic.triple_pure hI trivial

theorem throw (e : Err) : KeepsAirdrops env chain address dto (throw e : Service α) :=
  fun _ hI => Logic.triple_throw hI

theorem settle (x : Except Err α) : KeepsAirdrops env chain address dto (Async.settle x) := by
  intro s hI
  rw [tagged_settle]
  exact Logic.triple_settle hI fun _ _ => trivial

theorem throwIf (b : Prop) [Decidable b] (e : Err) :
    KeepsAirdrops env chain address dto (Async.throwIf b e) := by
  unfold Async.throwIf
  split
  · exact throw e
  · exact pure ()

theorem bind {p : Service α} {f : α → Service β} (hp : KeepsAirdrops env chain address dto p)
    (hf : ∀ a, KeepsAirdrops env chain address dto (f a)) :
    KeepsAirdrops env chain address dto (p >>= f) := by
  intro s hI
  rw [tagged_bind]
  exact (hp s hI).bind fun a t _ hI' _ => hf a t hI'

theorem call {op : ServiceOp} (hop : op.savesAirdrop chain address = false) :
    KeepsAirdrops env chain address dto (Async.call op) := by
  intro s hI
  rw [tagged_call]
  refine Logic.triple_call (G := fun _ _ => True) hI ?_ fun _ _ _ _ _ _ _ => trivial
  intro t _ hI o r u hans _
  exact ⟨seg_airdrops (answer_airdrops hop hans) hI, trivial⟩

theorem getUuid : KeepsAirdrops env chain address dto (getUuid env) := by
  intro s hI
  refine Logic.triple_store ?_
  exact (Logic.triple_update (Q := fun _ _ => True) (seg_airdrops rfl hI) trivial).bind
    fun _ _ _ hI _ => Logic.triple_pure hI trivial

theorem random : KeepsAirdrops env chain address dto (random env) :=
  fun _ hI => Logic.triple_store (Logic.triple_pure hI trivial)

theorem externalBalance {chainName : ExternalChainName} {owner : JsString}
    {contractAddress : Option JsString} :
    KeepsAirdrops env chain address dto (externalBalance chainName owner contractAddress) := by
  unfold Service.externalBalance
  split
  · exact call rfl
  · exact call rfl

theorem symbolAndDecimals {chainName : ExternalChainName} {contractAddress : Option JsString} :
    KeepsAirdrops env chain address dto (symbolAndDecimals env chainName contractAddress) := by
  unfold RechargeService.symbolAndDecimals
  split
  · split
    · exact pure _
    · exact pure _
    · exact pure _
    · exact throw _
  · exact call rfl

theorem verifyRechargeParamV2 {detail : RechargeTransDetail} :
    KeepsAirdrops env chain address dto (verifyRechargeParamV2 env detail) := by
  apply bind (call rfl)
  intro config
  apply bind (settle _)
  intro _
  apply bind (call rfl)
  intro devTest
  split
  · exact pure _
  · exact bind externalBalance fun _ => throwIf _ _

theorem createExternalTrans {orderId : JsString} {fromTrJson : FromTrJson}
    {detail : RechargeTransDetail} :
    KeepsAirdrops env chain address dto (createExternalTrans env orderId fromTrJson detail) := by
  apply bind (call rfl)
  intro devTest
  split
  · exact getUuid
  · apply bind (settle _)
    intro transactionJSON
    exact call rfl

theorem createRechargeOrderV2 {detail : RechargeTransDetail} {fromTrJson : FromTrJson} :
    KeepsAirdrops env chain address dto (createRechargeOrderV2 env detail fromTrJson) := by
  apply bind getUuid
  intro entityId
  apply bind createExternalTrans
  intro walletTxId
  -- the order is of the type `ISSUE`
  refine bind (call ?_) fun _ => pure _
  simp [ServiceOp.savesAirdrop, RechargeOrder.isAirdrop]

/-- A function that keeps to the logic, and then one that establishes `Q`. -/
theorem seq {p : Service α} {f : α → Service β} {Q : β → ServiceStore → Prop}
    (hp : KeepsAirdrops env chain address dto p) (hI : (airdropLogic env chain address).Inv s)
    (hf : ∀ a t, (airdropLogic env chain address).Inv t →
      (airdropLogic env chain address).Triple ((f a).tagged dto) t Q) :
    (airdropLogic env chain address).Triple ((p >>= f).tagged dto) s Q := by
  rw [tagged_bind]
  exact (hp s hI).bind fun a t _ hI' _ => hf a t hI'

end KeepsAirdrops

/-! ## A request -/

/-- The details are for what the request asks for. -/
theorem triple_getRechargeTransDetailV2 {fromTrJson : FromTrJson} {message : RechargeV2ToTrInfoData}
    (hI : (airdropLogic env chain address).Inv s) :
    (airdropLogic env chain address).Triple
      ((getRechargeTransDetailV2 env fromTrJson message).tagged dto) s
      fun detail _ => detail.toDetail = message := by
  unfold getRechargeTransDetailV2
  refine KeepsAirdrops.seq (.call rfl) hI fun devTest t hI => ?_
  split
  · refine KeepsAirdrops.seq .random hI fun n t hI => ?_
    refine KeepsAirdrops.seq .getUuid hI fun txHash t hI => ?_
    exact Logic.triple_pure hI rfl
  · refine KeepsAirdrops.seq (.call rfl) hI fun config t hI => ?_
    refine KeepsAirdrops.seq (.settle _) hI fun item t hI => ?_
    refine KeepsAirdrops.seq (.throwIf _ _) hI fun _ t hI => ?_
    refine KeepsAirdrops.seq (.throwIf _ _) hI fun _ t hI => ?_
    refine KeepsAirdrops.seq (.settle _) hI fun fromDetail t hI => ?_
    cases fromDetail with
    | none => exact Logic.triple_throw hI
    | some fromDetail =>
      refine KeepsAirdrops.seq .symbolAndDecimals hI fun info t hI => ?_
      exact Logic.triple_pure hI rfl

/-- A balance of the address on the chain is zero. -/
theorem triple_getInternalAccountBalance {chainName internalAddress assetType : JsString}
    (hI : (airdropLogic env chain address).Inv s) :
    (airdropLogic env chain address).Triple
      ((getInternalAccountBalance chainName internalAddress assetType).tagged dto) s
      fun balance _ => chainName = chain → internalAddress = address → balance = 0 := by
  unfold getInternalAccountBalance
  rw [tagged_call]
  refine Logic.triple_call (G := fun r _ => ∀ balance, r = .ok balance →
    chainName = chain → internalAddress = address → balance = 0) hI ?_ ?_
  · intro t _ hI o r u hans hall
    refine ⟨seg_airdrops (answer_airdrops rfl hans) hI, ?_⟩
    intro balance hr hchain haddress
    subst hr
    cases o with
    | amount n =>
      cases hans
      have hzero := hall.1
      simp only [readsZero, decide_eq_true_eq] at hzero
      exact hzero hchain haddress
    | _ => cases hans
  · intro balance t u hG _ _ _
    exact hG balance rfl

/-- An airdrop to the address that is found means that there is one on the chain. -/
theorem triple_findAirdrop {internalAddress : JsString}
    (hI : (airdropLogic env chain address).Inv s) :
    (airdropLogic env chain address).Triple
      ((findOneRechargeOrder internalAddress .AIRDROP).tagged dto) s
      fun airdrop t => airdrop.isSome → dto.message.chainName = chain →
        internalAddress = address → t.airdrops chain address ≠ [] := by
  unfold findOneRechargeOrder
  rw [tagged_call]
  refine Logic.triple_call (G := fun r t => ∀ airdrop, r = .ok airdrop → airdrop.isSome →
    dto.message.chainName = chain → internalAddress = address → t.airdrops chain address ≠ [])
    hI ?_ ?_
  · intro t _ hI o r u hans hall
    refine ⟨seg_airdrops (answer_airdrops rfl hans) hI, ?_⟩
    intro airdrop hr hfound hchain haddress
    subst hr
    cases o with
    | done =>
      cases hans
      have happart := hall.2
      simp only [airdropsApart, decide_eq_true_eq] at happart
      refine happart hchain haddress ?_
      obtain ⟨order, hsome⟩ := Option.isSome_iff_exists.1 hfound
      have hproperty := List.find?_some hsome
      simp only [decide_eq_true_eq] at hproperty
      exact ⟨order, List.mem_of_find?_eq_some hsome, haddress ▸ hproperty.1, hproperty.2⟩
    | _ => cases hans
  · intro airdrop t u hG hR _ _ hfound hchain haddress
    exact hR (hG airdrop rfl hfound hchain haddress)

/-- An airdrop is created. -/
theorem triple_saveAirdrop {order : RechargeOrder} (hI : (airdropLogic env chain address).Inv s) :
    (airdropLogic env chain address).Triple ((saveRechargeOrder order).tagged dto) s
      fun _ t => order.isAirdrop chain address → t.airdrops chain address ≠ [] := by
  unfold saveRechargeOrder
  rw [tagged_call]
  refine Logic.triple_call (G := fun r t => r = .ok () → order.isAirdrop chain address →
    t.airdrops chain address ≠ []) hI ?_ ?_
  · intro t _ hI o r u hans hall
    by_cases horder : order.isAirdrop chain address
    · cases o with
      | done =>
        cases hans
        have happart := hall.2
        simp only [airdropsApart, decide_eq_true_eq] at happart
        have hnew : ServiceStore.airdrops chain address
            { t with rechargeOrders := t.rechargeOrders ++ [order] } = [order] := by
          have hnone := happart horder
          rw [ServiceStore.airdrops] at hnone
          simp [ServiceStore.airdrops, hnone, horder]
        refine ⟨⟨?_, ?_⟩, ?_⟩
        · exact Nat.le_of_eq (congrArg List.length hnew)
        · intro _
          rw [hnew]
          exact List.cons_ne_nil _ _
        · intro _ _
          rw [hnew]
          exact List.cons_ne_nil _ _
      | fails e =>
        cases hans
        exact ⟨Logic.Seg.refl hI, fun h => (nomatch h)⟩
      | _ => cases hans
    · have hsame : u.airdrops chain address = t.airdrops chain address :=
        answer_airdrops (by simpa [ServiceOp.savesAirdrop] using horder) hans
      exact ⟨seg_airdrops hsame hI, fun _ h => absurd h horder⟩
  · intro _ t u hG hR _ _ horder
    exact hR (hG rfl horder)

/-- The last part of a request. -/
theorem triple_createRechargeAirDropOrderV2 {detail : RechargeTransDetail}
    (hdetail : detail.toDetail = dto.message) (hI : (airdropLogic env chain address).Inv s) :
    (airdropLogic env chain address).Triple ((createRechargeAirDropOrderV2 env detail).tagged dto) s
      fun _ => Airdropped chain address dto := by
  unfold createRechargeAirDropOrderV2
  refine KeepsAirdrops.seq (.settle _) hI fun mainAssetType t hI => ?_
  rw [tagged_bind, hdetail]
  refine (triple_getInternalAccountBalance hI).bind fun balance u _ hI hzero => ?_
  split
  · next hbalance =>
    refine Logic.triple_pure hI ?_
    intro hchain haddress
    have := hzero hchain haddress
    omega
  rw [tagged_bind]
  refine (triple_findAirdrop hI).bind fun airdrop u _ hI hfound => ?_
  split
  · refine KeepsAirdrops.seq .getUuid hI fun entityId v hI => ?_
    refine (triple_saveAirdrop hI).mono ?_
    intro _ w _ _ hsaved hchain haddress
    exact hsaved (by simp [RechargeOrder.isAirdrop, hchain, haddress])
  · next hnone =>
    refine Logic.triple_pure hI ?_
    intro hchain haddress
    refine hfound ?_ hchain haddress
    rwa [Bool.not_eq_true, Option.isNone_eq_false_iff] at hnone

theorem triple_rechargeV2 (hI : (airdropLogic env chain address).Inv s) :
    (airdropLogic env chain address).Triple ((rechargeV2 env dto).tagged dto) s
      fun _ => Airdropped chain address dto := by
  unfold rechargeV2
  rw [tagged_bind]
  refine (triple_getRechargeTransDetailV2 hI).bind fun detail t _ hI hdetail => ?_
  refine KeepsAirdrops.seq .verifyRechargeParamV2 hI fun _ u hI => ?_
  refine KeepsAirdrops.seq .createRechargeOrderV2 hI fun order v hI => ?_
  rw [tagged_bind]
  refine (triple_createRechargeAirDropOrderV2 hdetail hI).bind fun _ w _ hI hdone => ?_
  exact Logic.triple_pure hI hdone

/-- In every run of requests that read a balance of zero, in which airdrops keep apart, exactly one
airdrop exists for the chain and address of a request that has been answered. -/
theorem airdrop_exactly_once (env : ServiceEnv) (chain address : JsString) {s : ServiceStore}
    {ls : List (Label RechargeV2ReqDto ServiceChoice)}
    {c : Pool (Recorded ServiceStore (RechargeV2ReqDto × JsString)) _ Err RechargeV2ReqDto}
    (hstart : (s.airdrops chain address).length ≤ 1)
    (hrun : (rechargeProgram env).system.run ⟨⟨s, []⟩, []⟩ ls = some c)
    (hzero : (rechargeProgram env).system.Meets
      (Program.Allows fun _ a => readsZero chain address a = true) ⟨⟨s, []⟩, []⟩ ls)
    (hapart : (rechargeProgram env).system.Meets
      (Program.Allows fun s a => airdropsApart chain address s.store a = true) ⟨⟨s, []⟩, []⟩ ls) :
    ∀ x ∈ c.store.record, x.1.message.chainName = chain → x.1.message.address = address →
      (c.store.store.airdrops chain address).length = 1 := by
  have hstable : ∀ dto (orderId : JsString) (t u : ServiceStore),
      (airdropLogic env chain address).Rel t u → Airdropped chain address dto t →
      Airdropped chain address dto u :=
    fun dto _ t u hR h hchain haddress => hR (h hchain haddress)
  obtain ⟨hle, hanswered⟩ := Logic.requests_sound (L := airdropLogic env chain address) hstable
    (fun dto t hI => triple_rechargeV2 hI) hstart hrun
    ((hzero.and hapart).mono fun c l h a ha => ⟨h.1 a ha, h.2 a ha⟩)
  intro x hx hchain haddress
  have hsome := List.length_pos_iff.2 (hanswered x hx hchain haddress)
  have hone : (c.store.store.airdrops chain address).length ≤ 1 := hle
  omega

/-! ## Samples -/

namespace Sample

/-- BIWMETA and a second internal chain. -/
def twoChains : ServiceStore where
  config := config ++ [(js "PMCHAIN", [(js "USDT", { item with chainName := js "PMCHAIN" })])]

/-- A recharge from TRON on an internal chain. -/
def rechargeOn (chainName : JsString) : RechargeV2ReqDto :=
  ⟨⟨none, none, some ⟨js "TDeposit"⟩, none⟩, { message with chainName }⟩

/-- The steps of the request at position `i` up to the answer to its look for an airdrop. -/
def untilFound (i : Nat) (txId : JsString) : List (Label RechargeV2ReqDto ServiceChoice) :=
  Program.awaits i .done 4 ++ Program.awaits i (.amount 1500000) 1 ++ Program.awaits i .done 1 ++
    Program.awaits i (.text txId) 1 ++ Program.awaits i .done 1 ++ Program.awaits i (.amount 0) 1 ++
    [.answer i .done]

/-- The rest of the request. -/
def afterFound (i n : Nat) : List (Label RechargeV2ReqDto ServiceChoice) :=
  .resume i :: Program.awaits i .done n

/-- A request on BIWMETA and then one on `chainName`. -/
def oneByOne (chainName : JsString) : List (Label RechargeV2ReqDto ServiceChoice) :=
  .event (rechargeOn (js "BIWMETA")) :: untilFound 0 (js "first") ++ afterFound 0 1 ++
    .event (rechargeOn chainName) :: untilFound 0 (js "second") ++ afterFound 0 0

/-- Two requests that both look before either creates an airdrop. -/
def bothLook : List (Label RechargeV2ReqDto ServiceChoice) :=
  .event (rechargeOn (js "BIWMETA")) :: .event (rechargeOn (js "BIWMETA")) ::
    untilFound 0 (js "first") ++ untilFound 1 (js "second") ++ afterFound 0 1 ++ afterFound 0 1

end Sample

/-- The second request finds the airdrop of the first. -/
theorem airdrop_exactly_once_sample :
    ∃ c, (rechargeProgram Sample.env).system.run ⟨⟨Sample.twoChains, []⟩, []⟩
        (Sample.oneByOne (js "BIWMETA")) = some c ∧ c.store.record.length = 2 ∧
      ∀ x ∈ c.store.record, x.1.message.chainName = js "BIWMETA" →
        x.1.message.address = js "bReceiver" →
          (c.store.store.airdrops (js "BIWMETA") (js "bReceiver")).length = 1 := by
  obtain ⟨c, hrun, hlength⟩ := System.exists_run (rechargeProgram Sample.env).system
    ⟨⟨Sample.twoChains, []⟩, []⟩ (Sample.oneByOne (js "BIWMETA"))
    (fun c => c.store.record.length = 2) (by decide +kernel)
  refine ⟨c, hrun, of_decide_eq_true hlength, ?_⟩
  exact airdrop_exactly_once Sample.env (js "BIWMETA") (js "bReceiver") (by decide) hrun
    (Program.meets_of_checks _ (by decide +kernel)) (Program.meets_of_checks _ (by decide +kernel))

/-- In every run from a table without airdrops in which balances are read as zero, the number of
airdrops satisfies `P` once a request has been answered. -/
def AirdropCount (P : Nat → Prop) : Prop :=
  ∀ (env : ServiceEnv) (chain address : JsString) (s : ServiceStore)
    (ls : List (Label RechargeV2ReqDto ServiceChoice))
    (c : Pool (Recorded ServiceStore (RechargeV2ReqDto × JsString)) _ Err RechargeV2ReqDto),
    s.airdrops chain address = [] →
      (rechargeProgram env).system.run ⟨⟨s, []⟩, []⟩ ls = some c →
      (rechargeProgram env).system.Meets
        (Program.Allows fun _ a => readsZero chain address a = true) ⟨⟨s, []⟩, []⟩ ls →
      ∀ x ∈ c.store.record, x.1.message.chainName = chain → x.1.message.address = address →
        P (c.store.store.airdrops chain address).length

/-- Requests that race create two airdrops, and a request after one on another chain creates
none. -/
theorem airdrop_not_exactly_once : ¬ AirdropCount (· ≤ 1) ∧ ¬ AirdropCount (1 ≤ ·) := by
  constructor
  · intro h
    obtain ⟨c, hrun, hend⟩ := System.exists_run (rechargeProgram Sample.env).system
      ⟨⟨Sample.twoChains, []⟩, []⟩ Sample.bothLook
      (fun c => (c.store.record.any fun x =>
          x.1.message.chainName = js "BIWMETA" ∧ x.1.message.address = js "bReceiver") ∧
        (c.store.store.airdrops (js "BIWMETA") (js "bReceiver")).length = 2) (by decide +kernel)
    obtain ⟨hanswered, htwo⟩ := of_decide_eq_true hend
    obtain ⟨x, hx, hrequest⟩ := List.any_eq_true.1 hanswered
    obtain ⟨hchain, haddress⟩ := of_decide_eq_true hrequest
    have hle := h Sample.env (js "BIWMETA") (js "bReceiver") Sample.twoChains _ c (by decide) hrun
      (Program.meets_of_checks _ (by decide +kernel)) x hx hchain haddress
    omega
  · intro h
    obtain ⟨c, hrun, hend⟩ := System.exists_run (rechargeProgram Sample.env).system
      ⟨⟨Sample.twoChains, []⟩, []⟩ (Sample.oneByOne (js "PMCHAIN"))
      (fun c => (c.store.record.any fun x =>
          x.1.message.chainName = js "PMCHAIN" ∧ x.1.message.address = js "bReceiver") ∧
        (c.store.store.airdrops (js "PMCHAIN") (js "bReceiver")).length = 0) (by decide +kernel)
    obtain ⟨hanswered, hnone⟩ := of_decide_eq_true hend
    obtain ⟨x, hx, hrequest⟩ := List.any_eq_true.1 hanswered
    obtain ⟨hchain, haddress⟩ := of_decide_eq_true hrequest
    have hle := h Sample.env (js "PMCHAIN") (js "bReceiver") Sample.twoChains _ c (by decide) hrun
      (Program.meets_of_checks _ (by decide +kernel)) x hx hchain haddress
    omega

end CotServer
