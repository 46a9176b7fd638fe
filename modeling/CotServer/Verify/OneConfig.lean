import CotServer.Verify.Recharge.Amid
import CotServer.Verify.Redemption.Amid
import CotServer.Verify.Redemption.Fees

/-!
# The configs that a request is judged by

An accepted request is judged by the configs of its two reads, and by a single one of the stored
configs if what one of the reads looks at is the same in both. Otherwise there need not be a stored
config under which the request would be accepted.
-/

namespace CotServer

open Async Service Program RechargeService RedemptionService

/-- Some stored config decides all of an accepted recharge. -/
def RechargeOneConfig (env : ServiceEnv) (stored : List RechargeObject) (dto : RechargeV2ReqDto)
    (tr : List ServiceExchange) (orderId : JsString) : Prop :=
  ∃ detail, (∃ order, order.Records detail ∧ order.entityId = orderId ∧
      ∃ x ∈ tr, x.op = .saveRechargeOrder order) ∧
    ∃ config ∈ stored, RechargeJudged env config dto detail

/-- Some stored config decides all of an accepted redemption. -/
def RedemptionOneConfig (env : ServiceEnv) (stored : List RechargeObject)
    (fromTrJson : RedemptionV2Tr) (tr : List ServiceExchange) (orderId : JsString) : Prop :=
  ∃ detail, (∃ order, order.Records detail ∧ order.entityId = orderId ∧
      ∃ x ∈ tr, x.op = .saveRedemptionOrder order) ∧
    ∃ config ∈ stored, RedemptionJudged env config fromTrJson detail

/-- Requests are judged by the configs of their two reads, and by one config when one of the two
parts of it that they read is kept. -/
theorem judged_by_configs (env : ServiceEnv) (configs : List RechargeObject) :
    (∀ (c c' : ServicePool) tr dto orderId, c.tasks = [] →
      (env.amid configs).Alongside (rechargeV2 env dto) c tr (.ok orderId) c' →
        ∃ detail first second,
          RechargeAccepted env (c.store.config :: configs) dto tr orderId detail first second ∧
          (RechargeKept env.sdk dto first.before.config second.before.config →
            RechargeOneConfig env (c.store.config :: configs) dto tr orderId)) ∧
      ∀ (c c' : ServicePool) tr fromTrJson orderId, c.tasks = [] →
        (env.amid configs).Alongside (redemptionV2 env fromTrJson) c tr (.ok orderId) c' →
          ∃ detail first second,
            RedemptionAccepted env (c.store.config :: configs) fromTrJson tr orderId detail first
              second ∧
            (RedemptionKept env.sdk fromTrJson first.before.config second.before.config →
              RedemptionOneConfig env (c.store.config :: configs) fromTrJson tr orderId) := by
  constructor
  · intro c c' tr dto orderId htasks hcall
    have hstart : Amid (c.store.config :: configs) c := .start List.mem_cons_self htasks
    obtain ⟨detail, first, second, haccepted⟩ :=
      rechargeV2_accepted hstart (List.subset_cons_self _ _) hcall
    refine ⟨detail, first, second, haccepted, ?_⟩
    intro hkept
    have hfirst := (haccepted.reads first (by simp)).2.2
    have hsecond := (haccepted.reads second (by simp)).2.2
    cases hdev : env.rechargeDevTest with
    | true =>
      refine ⟨detail, haccepted.saved, _, hsecond, ?_, haccepted.verified⟩
      intro hfalse
      rw [hdev] at hfalse
      cases hfalse
    | false =>
      rcases RechargeJudged.of_kept (haccepted.decoded hdev) haccepted.verified hkept with h | h
      · exact ⟨detail, haccepted.saved, _, hfirst, h⟩
      · exact ⟨detail, haccepted.saved, _, hsecond, h⟩
  · intro c c' tr fromTrJson orderId htasks hcall
    have hstart : Amid (c.store.config :: configs) c := .start List.mem_cons_self htasks
    obtain ⟨detail, first, second, haccepted⟩ :=
      redemptionV2_accepted hstart (List.subset_cons_self _ _) hcall
    refine ⟨detail, first, second, haccepted, ?_⟩
    intro hkept
    have hfirst := (haccepted.reads first (by simp)).2.2
    have hsecond := (haccepted.reads second (by simp)).2.2
    rcases RedemptionJudged.of_kept haccepted.decoded haccepted.verified hkept with h | h
    · exact ⟨detail, haccepted.saved, _, hfirst, h⟩
    · exact ⟨detail, haccepted.saved, _, hsecond, h⟩

/-! ## Samples -/

namespace Sample

/-- The sample item with other addresses. -/
def otherConfig : RechargeObject :=
  [(js "BIWMETA", [(js "USDT", { item with
    applyAddress := js "bOther"
    supportChain := { item.supportChain with TRON := some ⟨true, none, js "TOther", js "TRX"⟩ } })])]

/-- The sample item, closed for both kinds of requests. -/
def closedConfig : RechargeObject :=
  [(js "BIWMETA", [(js "USDT", { item with
    enable := false, redemption := { item.redemption with enable := false } })])]

def tronRecharge : RechargeV2ReqDto := ⟨⟨none, none, some ⟨js "TDeposit"⟩, none⟩, message⟩

/-- The answers to a request, the config being written after the answer at the position `n`. -/
def writingAfter (n : Nat) (choices : List ServiceChoice) :
    List (List (Label Nat ServiceChoice) × ServiceChoice × List (Label Nat ServiceChoice)) :=
  choices.mapIdx fun i choice => ([], choice, if i = n then [.event 0] else [])

def rechargeChoices : List ServiceChoice :=
  [.done, .done, .done, .done, .amount 1500000, .done, .text (js "deposit"), .done, .amount 1]

end Sample

/-- The config is written between the two reads, and is the same. -/
theorem judged_by_configs_sample :
    (∃ tr orderId c', (Sample.env.amid [Sample.config]).Alongside
        (rechargeV2 Sample.env Sample.tronRecharge) ⟨{ config := Sample.config }, []⟩ tr (.ok orderId)
        c' ∧
      RechargeOneConfig Sample.env [Sample.config, Sample.config] Sample.tronRecharge tr orderId) ∧
    ∃ tr orderId c', (Sample.env.amid [Sample.config]).Alongside
        (redemptionV2 Sample.env tronRedemption) ⟨{ config := Sample.config }, []⟩ tr (.ok orderId)
        c' ∧
      RedemptionOneConfig Sample.env [Sample.config, Sample.config] tronRedemption tr orderId := by
  constructor
  · obtain ⟨tr, orderId, c', hcall⟩ := exists_returning (Sample.env.amid [Sample.config])
      (rechargeV2 Sample.env Sample.tronRecharge) ⟨{ config := Sample.config }, []⟩
      (Sample.writingAfter 1 Sample.rechargeChoices) (by decide +kernel)
    obtain ⟨detail, first, second, haccepted, hone⟩ :=
      (judged_by_configs Sample.env [Sample.config]).1 _ c' tr _ orderId rfl hcall
    refine ⟨tr, orderId, c', hcall, hone ?_⟩
    have hfirst := (haccepted.reads first (by simp)).2.2
    have hsecond := (haccepted.reads second (by simp)).2.2
    simp only [List.mem_cons, List.not_mem_nil, or_self, or_false] at hfirst hsecond
    rw [hfirst, hsecond]
    exact .refl _ _ _
  · obtain ⟨tr, orderId, c', hcall⟩ := exists_returning (Sample.env.amid [Sample.config])
      (redemptionV2 Sample.env tronRedemption) ⟨{ config := Sample.config }, []⟩
      (Sample.writingAfter 0 tronChoices) (by decide +kernel)
    obtain ⟨detail, first, second, haccepted, hone⟩ :=
      (judged_by_configs Sample.env [Sample.config]).2 _ c' tr _ orderId rfl hcall
    refine ⟨tr, orderId, c', hcall, hone ?_⟩
    have hfirst := (haccepted.reads first (by simp)).2.2
    have hsecond := (haccepted.reads second (by simp)).2.2
    simp only [List.mem_cons, List.not_mem_nil, or_self, or_false] at hfirst hsecond
    rw [hfirst, hsecond]
    exact .refl _ _ _

/-- The platform is closed and moved between the two reads: neither of the configs accepts the
requests that are accepted. -/
theorem not_judged_by_one_config :
    (¬ ∀ env configs (c c' : ServicePool) tr dto orderId, c.tasks = [] →
      (env.amid configs).Alongside (rechargeV2 env dto) c tr (.ok orderId) c' →
        RechargeOneConfig env (c.store.config :: configs) dto tr orderId) ∧
    ¬ ∀ env configs (c c' : ServicePool) tr fromTrJson orderId, c.tasks = [] →
      (env.amid configs).Alongside (redemptionV2 env fromTrJson) c tr (.ok orderId) c' →
        RedemptionOneConfig env (c.store.config :: configs) fromTrJson tr orderId := by
  constructor
  · intro h
    obtain ⟨tr, orderId, c', hcall⟩ := exists_returning (Sample.env.amid [Sample.closedConfig])
      (rechargeV2 Sample.env Sample.tronRecharge) ⟨{ config := Sample.otherConfig }, []⟩
      (Sample.writingAfter 1 Sample.rechargeChoices) (by decide +kernel)
    obtain ⟨detail, _, config, hmem, hdecoded, hverified⟩ := h _ _ _ c' tr _ orderId rfl hcall
    obtain ⟨item, hitem, henable, hfrom⟩ := (hdecoded rfl).item
    have hto := (hdecoded rfl).toDetail
    rcases List.mem_pair.1 hmem with rfl | rfl
    · cases hitem
      obtain ⟨fromDetail, toDetail, fromAssetSymbol, fromDecimals, toAmount⟩ := detail
      cases hto
      cases hfrom
      cases hverified
    · cases hitem
      cases henable
  · intro h
    obtain ⟨tr, orderId, c', hcall⟩ := exists_returning (Sample.env.amid [Sample.closedConfig])
      (redemptionV2 Sample.env tronRedemption) ⟨{ config := Sample.otherConfig }, []⟩
      (Sample.writingAfter 0 tronChoices) (by decide +kernel)
    obtain ⟨detail, _, config, hmem, ⟨⟨trJson, item, hfrom, hitem, hpays⟩, _⟩, item', hitem',
      hverified⟩ := h _ _ _ c' tr _ orderId rfl hcall
    obtain ⟨fromDetail, toDetail, toAmount, redemptionRatio, redemptionFee⟩ := detail
    cases hfrom
    rcases List.mem_pair.1 hmem with rfl | rfl
    · cases hitem'
      cases hverified
    · cases hitem
      cases hpays.enable

end CotServer
