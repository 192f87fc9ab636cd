import CloudGuest.Provisioning.Planner

/-!
The script of a plan (compile.py) and the safety net around it. A plan with an action
of management risk starts with a scheduler that reverts the router, and is not applied
before there is a backup.

Risk is given to actions, by the last rule, where guest ports are asked for. The
ports themselves are added behind the actions and are assessed by no rule, and a plan
without them is not assessed at all. `isGuarded` says exactly when nothing slips
through.
-/

namespace CloudGuest.Planner
open Texts Sorting FirstSeen

/-! ### Commands (network_config/profiles) -/

inductive Command where
  | addBridge (name : Text)
  | removeBridgePort (bridge interface : Text)
  | removeDhcpClient (interface : Text)
  | addBridgePort (bridge interface : Text) (index : Nat)
  deriving DecidableEq

def escapeRouterosString (value : Text) : Text :=
  value.flatMap fun char =>
    if char = '\\' then ['\\', '\\'] else if char = '"' then ['\\', '"'] else [char]

def quoted (value : Text) : Text := '"' :: escapeRouterosString value ++ ['"']

def wyfyComment (domain slug : Text) : Text := "WYFYGUEST-".toList ++ domain ++ '-' :: slug

def Command.render : Command → List Text
  | .addBridge name =>
      [":if ([:len [/interface bridge find where name=".toList ++ quoted name ++
        "]] = 0) do=\x7b".toList,
        "  /interface bridge add name=".toList ++ quoted name ++ " comment=".toList ++
          quoted (wyfyComment "bridge".toList "guest".toList) ++ " disabled=no".toList,
        "\x7d".toList]
  | .removeBridgePort bridge interface =>
      [":local wyfyPort [/interface bridge port find where bridge=".toList ++ quoted bridge ++
        " interface=".toList ++ quoted interface ++ "]".toList,
        ":if ([:len $wyfyPort] > 0) do=\x7b /interface bridge port remove $wyfyPort \x7d".toList]
  | .removeDhcpClient interface =>
      [":local wyfyClient [/ip dhcp-client find where interface=".toList ++ quoted interface ++
        "]".toList,
        ":if ([:len $wyfyClient] > 0) do=\x7b /ip dhcp-client remove $wyfyClient \x7d".toList]
  | .addBridgePort bridge interface index =>
      [":if ([:len [/interface bridge port find where bridge=".toList ++ quoted bridge ++
        " interface=".toList ++ quoted interface ++ "]] = 0) do=\x7b".toList,
        "  /interface bridge port add bridge=".toList ++ quoted bridge ++ " interface=".toList ++
          quoted interface ++ " comment=".toList ++
          quoted (wyfyComment "bridge-port".toList ("guest-".toList ++ decimal index)),
        "\x7d".toList]

def safetyRevertSchedulerComment : Text := "WYFYGUEST-safety-revert".toList

def renderSafetyRevertScheduler : List Text :=
  let found := "/system scheduler find where comment=".toList ++ quoted safetyRevertSchedulerComment
  ["# --- WyFyGuest management safety net (scheduled revert) ---".toList,
    ":local wyfySafetySched [".toList ++ found ++ "]".toList,
    ":if ([:len $wyfySafetySched] > 0) do=\x7b /system scheduler remove $wyfySafetySched \x7d".toList,
    ":if ([:len [".toList ++ found ++ "]] = 0) do=\x7b".toList,
    "  /system scheduler add name=\"wyfy-safety-revert\" interval=10m start-time=startup ".toList ++
      "on-event=\"/system backup load name=\"cloudguest-backup\"; /system reboot;\" comment=".toList ++
      quoted safetyRevertSchedulerComment,
    "\x7d".toList]

/-! ### Compilation (compile.py) -/

def renderAction (action : PlanAction) : List Command :=
  match action.resourceKind, action.actionType with
  | .bridge, .create => [.addBridge ((action.details.name.filter (· ≠ [])).getD action.resourceRef)]
  | .bridgePort, .remove =>
      let bridge := action.details.bridge.getD []
      let interface := action.details.interface.getD []
      if bridge = [] ∨ interface = [] then [] else [.removeBridgePort bridge interface]
  | .dhcpClient, .modify => [.removeDhcpClient action.clientInterface]
  | _, _ => []

def PlanAction.guestBridge (action : PlanAction) : Option Text :=
  match action.resourceKind, action.actionType with
  | .bridge, .create => some ((action.details.name.filter (· ≠ [])).getD action.resourceRef)
  | .bridge, .noop => some action.resourceRef
  | _, _ => none

def resolveParentBridge (plan : ConfigurationPlan) : Option Text :=
  match plan.requestedConfig.parent with
  | some parent => some parent
  | none => plan.actions.findSome? PlanAction.guestBridge

def renderAddBridgePorts (bridge : Text) (interfaces : List Text) : List Command :=
  (interfaces.zipIdx 1).map fun entry => .addBridgePort bridge entry.1 entry.2

def guestPortCommands (plan : ConfigurationPlan) : List Command :=
  match (resolveParentBridge plan).filter (· ≠ []) with
  | none => []
  | some bridge => renderAddBridgePorts bridge plan.requestedConfig.guestInterfaces

def planCommands (plan : ConfigurationPlan) : List Command :=
  (sortOn PlanAction.seq plan.actions).flatMap renderAction ++ guestPortCommands plan

def scriptHeader : Text := "# --- WyFyGuest configuration plan (managed) ---".toList

def compileConfigurationPlan (plan : ConfigurationPlan) : List Text :=
  scriptHeader :: (if planRequiresSafetyNet plan.actions then renderSafetyRevertScheduler else []) ++
    (planCommands plan).flatMap Command.render

/-! ### Application (plan_service.py) -/

structure StoredPlan where
  status : PlanStatus
  renderedVersionId : Option Nat
  preApplyBackupVersionId : Option Nat
  actions : List PlanAction

def applyPlanRefuses (row : StoredPlan) : Bool :=
  row.status ≠ .rendering || row.renderedVersionId = none ||
    planRequiresSafetyNet row.actions && row.preApplyBackupVersionId = none

def Command.changes (interfaces : List Text) : Command → Bool
  | .addBridge _ => false
  | .removeBridgePort _ interface => interface ∈ interfaces
  | .removeDhcpClient interface => interface ∈ interfaces
  | .addBridgePort _ interface _ => interface ∈ interfaces

/-- Nothing sensitive is changed without the net, and no WAN interface gets into a bridge. -/
structure Guarded (ctx : PlanContext) (plan : ConfigurationPlan) : Prop where
  net : ∀ command ∈ planCommands plan,
    command.changes (managementSensitiveInterfaces ctx.snapshot ctx.wanInterfaces) = true →
      (∃ rest, compileConfigurationPlan plan = scriptHeader :: renderSafetyRevertScheduler ++ rest) ∧
      ∀ row : StoredPlan, row.actions = plan.actions → row.preApplyBackupVersionId = none →
        applyPlanRefuses row = true
  unbridged : plan.conflicts = [] → ∀ bridge interface index,
    .addBridgePort bridge interface index ∈ planCommands plan → interface ∉ ctx.wanInterfaces

/-! ### The actions of a plan -/

def PlanAction.bare (action : PlanAction) : PlanAction := { action with seq := 0, risk := .none }

def removeAction (bridge port : Text) : PlanAction :=
  ⟨0, .r1, .remove, .bridgePort, bridge ++ ':' :: port, .none,
    { ActionDetails.empty with bridge := some bridge, interface := some port }⟩

def moveAction (interface : Text) : PlanAction :=
  ⟨0, .r2, .modify, .dhcpClient, interface, .none,
    { ActionDetails.empty with currentInterface := some interface }⟩

def mappingAction : PlanAction := ⟨0, .r3, .noop, .wanMapping, "pppoe-routing".toList, .none, .empty⟩

def bridgeAction (ctx : PlanContext) : PlanAction :=
  match ctx.request.parent with
  | some parent => ⟨0, .r5, .noop, .bridge, parent, .none, .empty⟩
  | none =>
      match findSuitableParentBridge ctx.snapshot ctx.wanInterfaces with
      | some suitable => ⟨0, .r5, .noop, .bridge, suitable, .none, .empty⟩
      | none => ⟨0, .r4, .create, .bridge, defaultGuestBridgeName, .none,
          { ActionDetails.empty with name := some defaultGuestBridgeName }⟩

def bareActions (ctx : PlanContext) : List PlanAction :=
  ((wanInBridge ctx.snapshot ctx.wanInterfaces).flatMap fun finding =>
      finding.2.map (removeAction finding.1)) ++
    (dhcpClientsOnBridge ctx.snapshot).map moveAction ++
    if hasGuests ctx then [mappingAction, bridgeAction ctx] else []

structure Assembled (builder : PlanBuilder) (bare : List PlanAction) : Prop where
  bare : builder.actions.map PlanAction.bare = bare
  unblocked : builder.conflicts = []
  unassessed : ∀ action ∈ builder.actions, action.risk ≠ .managementConnectivity

theorem Assembled.add {builder : PlanBuilder} {bare : List PlanAction} (assembled : Assembled builder bare)
    {ruleId : RuleId} {actionType : PlanActionType} {kind : ResourceKind} {ref : Text} {risk : PlanRisk}
    {details : ActionDetails} (calm : risk ≠ .managementConnectivity) :
    Assembled (builder.addAction ruleId actionType kind ref risk details)
      (bare ++ [⟨0, ruleId, actionType, kind, ref, .none, details⟩]) := by
  constructor
  · simp [PlanBuilder.addAction, assembled.bare, PlanAction.bare]
  · exact assembled.unblocked
  · intro action listed
    rcases List.mem_append.mp listed with earlier | last
    · exact assembled.unassessed action earlier
    · obtain rfl := List.mem_singleton.mp last
      exact calm

theorem Assembled.unblocked_eq {builder : PlanBuilder} {bare : List PlanAction}
    (assembled : Assembled builder bare) : builder.blocked = false := by
  simp [PlanBuilder.blocked, assembled.unblocked]

theorem Assembled.foldl {Item : Type} {step : PlanBuilder → Item → PlanBuilder}
    {added : Item → List PlanAction}
    (each : ∀ builder bare item, Assembled builder bare → Assembled (step builder item) (bare ++ added item))
    (items : List Item) : ∀ builder bare, Assembled builder bare →
      Assembled (items.foldl step builder) (bare ++ items.flatMap added) := by
  induction items with
  | nil =>
      intro builder bare assembled
      simpa using assembled
  | cons item rest ih =>
      intro builder bare assembled
      have next := ih _ _ (each builder bare item assembled)
      simpa using next

theorem Assembled.removeWanPort {builder : PlanBuilder} {bare : List PlanAction}
    (assembled : Assembled builder bare) (bridge port : Text) :
    Assembled (Planner.removeWanPort bridge port builder) (bare ++ [removeAction bridge port]) :=
  assembled.add (by decide)

theorem Assembled.moveDhcpClient {builder : PlanBuilder} {bare : List PlanAction}
    (assembled : Assembled builder bare) (interface : Text) :
    Assembled (Planner.moveDhcpClient interface builder) (bare ++ [moveAction interface]) :=
  assembled.add (by decide)

theorem assembled_r1 (ctx : PlanContext) : ∃ builder,
    ruleR1WanInBridge ctx ⟨[], [], []⟩ = some builder ∧
      Assembled builder ((wanInBridge ctx.snapshot ctx.wanInterfaces).flatMap fun finding =>
        finding.2.map (removeAction finding.1)) := by
  refine ⟨_, rfl, ?_⟩
  have start : Assembled ⟨[], [], []⟩ [] := ⟨rfl, rfl, by simp⟩
  apply Assembled.foldl _ _ _ [] start
  intro builder bare finding assembled
  rw [List.map_eq_flatMap]
  apply Assembled.foldl _ _ _ _ assembled
  intro builder bare port held
  exact held.removeWanPort finding.1 port

theorem assembled_r2 (ctx : PlanContext) {builder : PlanBuilder} {bare : List PlanAction}
    (assembled : Assembled builder bare) : ∃ next,
      ruleR2DhcpClientOnBridge ctx builder = some next ∧
        Assembled next (bare ++ (dhcpClientsOnBridge ctx.snapshot).map moveAction) := by
  refine ⟨_, rfl, ?_⟩
  rw [List.map_eq_flatMap]
  apply Assembled.foldl _ _ _ _ assembled
  intro builder bare interface held
  exact held.moveDhcpClient interface

theorem assembled_r3 (ctx : PlanContext) {builder : PlanBuilder} {bare : List PlanAction}
    (assembled : Assembled builder bare) : ∃ next,
      ruleR3PppoeMapping ctx builder = some next ∧
        Assembled next (bare ++ if hasGuests ctx then [mappingAction] else []) := by
  unfold ruleR3PppoeMapping
  cases guests : hasGuests ctx with
  | false => exact ⟨builder, rfl, by simpa using assembled⟩
  | true => exact ⟨_, rfl, assembled.add (by decide)⟩

theorem assembled_r4_r5 (ctx : PlanContext) {builder : PlanBuilder} {bare : List PlanAction}
    (assembled : Assembled builder bare) : ∃ next,
      ruleR4R5GuestBridge ctx builder = some next ∧
        Assembled next (bare ++ if hasGuests ctx then [bridgeAction ctx] else []) := by
  unfold ruleR4R5GuestBridge
  rw [assembled.unblocked_eq]
  cases guests : hasGuests ctx with
  | false => exact ⟨builder, rfl, by simpa using assembled⟩
  | true =>
      simp only [Bool.not_true, Bool.or_self, Bool.false_eq_true, if_false, if_true, bridgeAction]
      cases ctx.request.parent with
      | some parent => exact ⟨_, rfl, assembled.add PlanRisk.noConfusion⟩
      | none =>
          cases findSuitableParentBridge ctx.snapshot ctx.wanInterfaces with
          | some suitable => exact ⟨_, rfl, assembled.add PlanRisk.noConfusion⟩
          | none => exact ⟨_, rfl, assembled.add PlanRisk.noConfusion⟩

theorem assembled_r7 (ctx : PlanContext) {builder : PlanBuilder} {bare : List PlanAction}
    (assembled : Assembled builder bare) : ∃ next,
      ruleR7ExistingHotspot ctx builder = some next ∧ Assembled next bare := by
  unfold ruleR7ExistingHotspot
  split
  · exact ⟨_, rfl, assembled.bare, assembled.unblocked, assembled.unassessed⟩
  · exact ⟨builder, rfl, assembled⟩

/-! ### What nothing of a risk changes -/

theorem renderAction_bare (action : PlanAction) : renderAction action.bare = renderAction action := rfl

theorem assess_bare (snapshot : Snapshot) (wan : List Text) (action : PlanAction) :
    assessManagementRisk snapshot wan action.bare = assessManagementRisk snapshot wan action := rfl

theorem any_bare {actions bare : List PlanAction} (same : actions.map PlanAction.bare = bare)
    (check : PlanAction → Bool) (blind : ∀ action, check action.bare = check action) :
    actions.any check = bare.any check := by
  rw [← same, List.any_map]
  exact List.any_congr rfl (fun action => (blind action).symm)

theorem upgrade_bare (builder : PlanBuilder) (seq : Nat) (risk : PlanRisk) :
    (builder.upgradeActionRisk seq risk).actions.map PlanAction.bare =
      builder.actions.map PlanAction.bare := by
  rw [PlanBuilder.upgradeActionRisk, List.map_map]
  apply List.map_congr_left
  intro action _
  simp only [Function.comp_apply]
  split <;> rfl

theorem upgraded_net (seqs : List PlanAction) : ∀ builder : PlanBuilder,
    (∀ action ∈ seqs, action.seq ∈ builder.actions.map PlanAction.seq) →
    (planRequiresSafetyNet (seqs.foldl (fun builder action =>
        builder.upgradeActionRisk action.seq .managementConnectivity) builder).actions = true ↔
      planRequiresSafetyNet builder.actions = true ∨ seqs ≠ []) := by
  induction seqs with
  | nil => simp
  | cons first rest ih =>
      intro builder known
      have numbers : (builder.upgradeActionRisk first.seq .managementConnectivity).actions.map
          PlanAction.seq = builder.actions.map PlanAction.seq := by
        rw [PlanBuilder.upgradeActionRisk, List.map_map]
        apply List.map_congr_left
        intro action _
        simp only [Function.comp_apply]
        split <;> rfl
      have upgraded : planRequiresSafetyNet
          (builder.upgradeActionRisk first.seq .managementConnectivity).actions = true := by
        obtain ⟨action, listed, same⟩ := List.mem_map.mp (known first List.mem_cons_self)
        apply List.any_eq_true.mpr
        exact ⟨_, List.mem_map.mpr ⟨action, listed, rfl⟩, by simp [same]⟩
      rw [List.foldl_cons, ih _ (fun action listed => by
        rw [numbers]; exact known action (List.mem_cons_of_mem _ listed))]
      simp [upgraded]

/-- Whether a gate or a subnet stops the rules before the first action. -/
def isBlocked (ctx : PlanContext) : Bool :=
  hasGuests ctx && (!ctx.wanGatePasses || (activeDefaultRoute ctx.snapshot).isNone) ||
    (detectSubnetConflicts ctx).any (· ≠ [])

structure Opened (ctx : PlanContext) (builder : PlanBuilder) : Prop where
  bare : builder.actions.map PlanAction.bare = bareActions ctx
  unblocked : builder.conflicts = []
  net : planRequiresSafetyNet builder.actions = (hasGuests ctx &&
    (bareActions ctx).any (assessManagementRisk ctx.snapshot ctx.wanInterfaces))

theorem upgraded_conflicts (seqs : List PlanAction) : ∀ builder : PlanBuilder,
    (seqs.foldl (fun builder action =>
      builder.upgradeActionRisk action.seq .managementConnectivity) builder).conflicts =
        builder.conflicts := by
  induction seqs with
  | nil => exact fun _ => rfl
  | cons first rest ih => exact fun builder => ih _

theorem upgraded_bare (seqs : List PlanAction) : ∀ builder : PlanBuilder,
    (seqs.foldl (fun builder action =>
      builder.upgradeActionRisk action.seq .managementConnectivity) builder).actions.map
        PlanAction.bare = builder.actions.map PlanAction.bare := by
  induction seqs with
  | nil => exact fun _ => rfl
  | cons first rest ih =>
      intro builder
      rw [List.foldl_cons, ih, upgrade_bare]

theorem opened_r10 (ctx : PlanContext) {builder : PlanBuilder}
    (assembled : Assembled builder (bareActions ctx)) : ∃ next,
      ruleR10ManagementSafety ctx builder = some next ∧ Opened ctx next := by
  have calm : planRequiresSafetyNet builder.actions = false := by
    rw [planRequiresSafetyNet, List.any_eq_false]
    intro action listed risky
    exact assembled.unassessed action listed (of_decide_eq_true risky)
  unfold ruleR10ManagementSafety
  cases guests : hasGuests ctx with
  | false => exact ⟨builder, rfl, assembled.bare, assembled.unblocked, by rw [calm, guests, Bool.false_and]⟩
  | true =>
      refine ⟨_, rfl, ?_, ?_, ?_⟩
      · rw [upgraded_bare, assembled.bare]
      · rw [upgraded_conflicts, assembled.unblocked]
      · rw [Bool.eq_iff_iff, guests, Bool.true_and, upgraded_net, calm]
        · rw [← any_bare assembled.bare _ (assess_bare ctx.snapshot ctx.wanInterfaces)]
          simp [List.filter_eq_nil_iff]
        · intro action listed
          exact List.mem_map_of_mem (List.mem_of_mem_filter listed)

theorem runRules_assembled {ctx : PlanContext} {rule : PlanContext → PlanBuilder → Option PlanBuilder}
    {rest : List (PlanContext → PlanBuilder → Option PlanBuilder)} {builder next : PlanBuilder}
    {bare : List PlanAction} (ruled : rule ctx builder = some next) (assembled : Assembled next bare) :
    runRules ctx (rule :: rest) builder = runRules ctx rest next := by
  simp [runRules, ruled, assembled.unblocked_eq]

theorem runRules_open (ctx : PlanContext) : ∃ builder,
    runRules ctx (ruleRegistry.drop 3) ⟨[], [], []⟩ = some builder ∧ Opened ctx builder := by
  obtain ⟨_, ruled1, held1⟩ := assembled_r1 ctx
  obtain ⟨_, ruled2, held2⟩ := assembled_r2 ctx held1
  obtain ⟨_, ruled3, held3⟩ := assembled_r3 ctx held2
  obtain ⟨_, ruled4, held4⟩ := assembled_r4_r5 ctx held3
  obtain ⟨last, ruled7, held7⟩ := assembled_r7 ctx held4
  have assembled : Assembled last (bareActions ctx) := by
    refine cast (congrArg (Assembled last) ?_) held7
    unfold bareActions
    cases hasGuests ctx <;> simp
  obtain ⟨builder, ruled10, opened⟩ := opened_r10 ctx assembled
  refine ⟨builder, ?_, opened⟩
  show runRules ctx [_, _, _, _, _, _] _ = _
  rw [runRules_assembled ruled1 held1, runRules_assembled ruled2 held2, runRules_assembled ruled3 held3,
    runRules_assembled ruled4 held4, runRules_assembled ruled7 held7]
  simp [runRules, ruled10]

theorem runRules_gate {ctx : PlanContext} {rule : PlanContext → PlanBuilder → Option PlanBuilder}
    (rest : List (PlanContext → PlanBuilder → Option PlanBuilder)) {conflicts : List PlanConflict}
    (ruled : rule ctx ⟨[], [], []⟩ = some ⟨[], conflicts, []⟩) :
    runRules ctx (rule :: rest) ⟨[], [], []⟩ =
      if conflicts ≠ [] then some ⟨[], conflicts, []⟩ else runRules ctx rest ⟨[], [], []⟩ := by
  by_cases found : conflicts = []
  · simp [runRules, ruled, PlanBuilder.blocked, found]
  · simp [runRules, ruled, PlanBuilder.blocked, found]

theorem ruleR8_eq (ctx : PlanContext) : ruleR8WanVerificationGate ctx ⟨[], [], []⟩ =
    some ⟨[], if hasGuests ctx && !ctx.wanGatePasses then [.wanVerificationGate] else [], []⟩ := by
  unfold ruleR8WanVerificationGate
  split <;> rfl

theorem ruleR9_eq (ctx : PlanContext) : ruleR9DefaultRouteGate ctx ⟨[], [], []⟩ =
    some ⟨[], if hasGuests ctx && (activeDefaultRoute ctx.snapshot).isNone then [.noDefaultRoute]
      else [], []⟩ := by
  unfold ruleR9DefaultRouteGate
  split <;> rfl

theorem ruleR6_eq {ctx : PlanContext} {conflicts : List PlanConflict}
    (detected : detectSubnetConflicts ctx = some conflicts) :
    ruleR6SubnetOverlap ctx ⟨[], [], []⟩ = some ⟨[], conflicts, []⟩ := by
  simp [ruleR6SubnetOverlap, detected, PlanBuilder.addConflicts]

theorem runRules_cases {ctx : PlanContext} {builder : PlanBuilder}
    (ran : runRules ctx ruleRegistry ⟨[], [], []⟩ = some builder) :
    (isBlocked ctx = true ∧ builder.actions = [] ∧ builder.conflicts ≠ []) ∨
      (isBlocked ctx = false ∧ Opened ctx builder) := by
  obtain ⟨opened, behind, holds⟩ := runRules_open ctx
  rw [ruleRegistry, runRules_gate _ (ruleR8_eq ctx)] at ran
  by_cases gate : (hasGuests ctx && !ctx.wanGatePasses) = true
  · simp only [gate, if_true, ne_eq, reduceCtorEq, not_false_eq_true, Option.some.injEq] at ran
    simp only [Bool.and_eq_true] at gate
    exact .inl ⟨by simp [isBlocked, gate.1, gate.2], by rw [← ran], by simp [← ran]⟩
  rw [if_neg gate, if_neg (by simp), runRules_gate _ (ruleR9_eq ctx)] at ran
  by_cases routed : (hasGuests ctx && (activeDefaultRoute ctx.snapshot).isNone) = true
  · simp only [routed, if_true, ne_eq, reduceCtorEq, not_false_eq_true, Option.some.injEq] at ran
    simp only [Bool.and_eq_true] at routed
    exact .inl ⟨by simp [isBlocked, routed.1, routed.2], by rw [← ran], by simp [← ran]⟩
  rw [if_neg routed, if_neg (by simp)] at ran
  have gates : (hasGuests ctx && (!ctx.wanGatePasses || (activeDefaultRoute ctx.snapshot).isNone)) =
      false := by
    rw [Bool.and_or_distrib_left, Bool.eq_false_iff.mpr gate, Bool.eq_false_iff.mpr routed, Bool.or_self]
  cases detected : detectSubnetConflicts ctx with
  | none => simp [runRules, ruleR6SubnetOverlap, detected] at ran
  | some conflicts =>
      rw [runRules_gate _ (ruleR6_eq detected)] at ran
      by_cases found : conflicts = []
      · rw [if_neg (by simpa using found)] at ran
        obtain rfl : opened = builder := Option.some.inj (behind.symm.trans ran)
        exact .inr ⟨by simp [isBlocked, gates, detected, found], holds⟩
      · rw [if_pos found, Option.some.injEq] at ran
        exact .inl ⟨by simp [isBlocked, detected, found], by rw [← ran], by simpa [← ran] using found⟩

/-! ### The commands of a plan -/

theorem any_planCommands (plan : ConfigurationPlan) (check : Command → Bool) :
    (planCommands plan).any check =
      (plan.actions.any (fun action => (renderAction action).any check) ||
        (guestPortCommands plan).any check) := by
  rw [planCommands, List.any_append, List.any_flatMap]
  congr 1
  rw [Bool.eq_iff_iff, List.any_eq_true, List.any_eq_true]
  simp only [mem_sortOn]

theorem any_renderAddBridgePorts (bridge : Text) (guests interfaces : List Text) :
    (renderAddBridgePorts bridge guests).any (Command.changes interfaces) =
      guests.any (· ∈ interfaces) := by
  unfold renderAddBridgePorts
  generalize 1 = first
  induction guests generalizing first with
  | nil => rfl
  | cons guest rest ih =>
      rw [List.zipIdx_cons, List.map_cons, List.any_cons, List.any_cons, ih]
      rfl

theorem net_iff (interfaces : List Text) (plan : ConfigurationPlan) :
    (∀ command ∈ planCommands plan, command.changes interfaces = true →
      (∃ rest, compileConfigurationPlan plan = scriptHeader :: renderSafetyRevertScheduler ++ rest) ∧
      ∀ row : StoredPlan, row.actions = plan.actions → row.preApplyBackupVersionId = none →
        applyPlanRefuses row = true) ↔
    (planRequiresSafetyNet plan.actions = true ∨
      (planCommands plan).any (Command.changes interfaces) = false) := by
  -- The net is what the risk of the actions asks for, or there is nothing to guard.
  constructor
  · intro net
    by_cases touched : (planCommands plan).any (Command.changes interfaces) = true
    · obtain ⟨command, listed, changes⟩ := List.any_eq_true.mp touched
      -- a rendered plan is only refused because of the backup
      have refused := (net command listed changes).2 ⟨.rendering, some 0, none, plan.actions⟩ rfl rfl
      simp only [applyPlanRefuses] at refused
      exact .inl (by simpa using refused)
    · exact .inr (Bool.eq_false_iff.mpr touched)
  · rintro (risky | untouched) command listed changes
    · refine ⟨⟨(planCommands plan).flatMap Command.render, ?_⟩, ?_⟩
      · simp [compileConfigurationPlan, risky]
      · intro row same missing
        simp [applyPlanRefuses, same, risky, missing]
    · exact absurd changes (List.any_eq_false.mp untouched command listed)

/-! ### Findings of the snapshot -/

theorem portsOf_nonempty {bridges : List Bridge} {name port : Text} (listed : port ∈ portsOf bridges name) :
    port ≠ [] := by
  unfold portsOf at listed
  cases found : (bridges.filter fun bridge => bridge.name = name).getLast? with
  | none => simp [found] at listed
  | some bridge =>
      rw [found] at listed
      simpa using (List.mem_filter.mp listed).2

theorem bridgePortMap_name {bridges : List Bridge} {entry : Text × List Text}
    (listed : entry ∈ bridgePortMap bridges) : entry.1 ≠ [] ∧ entry.2 = portsOf bridges entry.1 := by
  obtain ⟨name, seen, rfl⟩ := List.mem_map.mp listed
  have named := List.mem_filter.mp ((mem_firstSeen _ _).mp seen)
  exact ⟨by simpa using named.2, rfl⟩

theorem wanInBridge_named {snapshot : Snapshot} {wan : List Text} {finding : Text × List Text}
    (listed : finding ∈ wanInBridge snapshot wan) :
    finding.1 ≠ [] ∧ finding.2 ≠ [] ∧ ∀ port ∈ finding.2, port ≠ [] ∧ port ∈ wan := by
  obtain ⟨mapped, filled⟩ := List.mem_filter.mp listed
  obtain ⟨entry, sorted, rfl⟩ := List.mem_map.mp mapped
  obtain ⟨named, ports⟩ := bridgePortMap_name ((mem_sortOn _ _ _).mp sorted)
  refine ⟨named, by simpa using filled, ?_⟩
  intro port inside
  have wanted := List.mem_filter.mp ((mem_firstSeen _ _).mp ((mem_sortOn _ _ _).mp inside))
  exact ⟨portsOf_nonempty (ports ▸ wanted.1), by simpa using wanted.2⟩

theorem findSuitableParentBridge_named {snapshot : Snapshot} {wan : List Text} {name : Text}
    (found : findSuitableParentBridge snapshot wan = some name) : name ≠ [] := by
  have suitable := List.find?_some found
  simp only [Bool.and_eq_true, decide_eq_true_eq] at suitable
  exact suitable.1

theorem parent_named {request : GuestNetworkRequest} {parent : Text}
    (found : request.parent = some parent) : parent ≠ [] := by
  simpa using (Option.filter_eq_some_iff.mp found).2

/-! ### What the commands change and what is assessed -/

theorem any_removals (snapshot : Snapshot) (wan : List Text) {check : PlanAction → Bool}
    (found : ∀ bridge port, bridge ≠ [] → port ≠ [] → port ∈ wan → check (removeAction bridge port) = true) :
    (((wanInBridge snapshot wan).flatMap fun finding => finding.2.map (removeAction finding.1)).any
      check) = decide (wanInBridge snapshot wan ≠ []) := by
  rw [Bool.eq_iff_iff, List.any_eq_true, decide_eq_true_eq]
  constructor
  · rintro ⟨action, listed, -⟩ empty
    simp [empty] at listed
  · intro filled
    obtain ⟨finding, listed⟩ := List.exists_mem_of_ne_nil _ filled
    obtain ⟨named, ported, ports⟩ := wanInBridge_named listed
    obtain ⟨port, inside⟩ := List.exists_mem_of_ne_nil _ ported
    refine ⟨removeAction finding.1 port, ?_, found _ _ named (ports port inside).1 (ports port inside).2⟩
    exact List.mem_flatMap.mpr ⟨finding, listed, List.mem_map_of_mem inside⟩

theorem render_removeAction {bridge port : Text} (named : bridge ≠ []) (ported : port ≠ []) :
    renderAction (removeAction bridge port) = [.removeBridgePort bridge port] := by
  simp [renderAction, removeAction, named, ported]

theorem clientInterface_moveAction (interface : Text) : (moveAction interface).clientInterface = interface := by
  by_cases named : interface = []
  · simp [PlanAction.clientInterface, moveAction, Option.filter, named]
  · simp [PlanAction.clientInterface, moveAction, Option.filter, named]

theorem render_moveAction (interface : Text) :
    renderAction (moveAction interface) = [.removeDhcpClient interface] := by
  rw [← clientInterface_moveAction interface]
  exact congrArg (fun client => [Command.removeDhcpClient client])
    (clientInterface_moveAction (moveAction interface).clientInterface)

theorem changes_bridgeAction (ctx : PlanContext) (interfaces : List Text) :
    (renderAction (bridgeAction ctx)).any (Command.changes interfaces) = false := by
  unfold bridgeAction
  split
  · rfl
  · split <;> rfl

theorem wan_sensitive {snapshot : Snapshot} {wan : List Text} {interface : Text} (listed : interface ∈ wan) :
    interface ∈ managementSensitiveInterfaces snapshot wan :=
  List.mem_append_left _ (List.mem_append_left _ listed)

theorem any_changes (ctx : PlanContext) :
    (bareActions ctx).any (fun action => (renderAction action).any (Command.changes
      (managementSensitiveInterfaces ctx.snapshot ctx.wanInterfaces))) =
    (decide (wanInBridge ctx.snapshot ctx.wanInterfaces ≠ []) ||
      (dhcpClientsOnBridge ctx.snapshot).any
        (· ∈ managementSensitiveInterfaces ctx.snapshot ctx.wanInterfaces)) := by
  rw [bareActions, List.any_append, List.any_append, any_removals]
  · have guests : (if hasGuests ctx then [mappingAction, bridgeAction ctx] else []).any
        (fun action => (renderAction action).any (Command.changes
          (managementSensitiveInterfaces ctx.snapshot ctx.wanInterfaces))) = false := by
      split
      · rw [List.any_cons, List.any_cons, changes_bridgeAction]
        rfl
      · rfl
    rw [guests, Bool.or_false, List.any_map]
    congr 2
    funext interface
    simp [render_moveAction, Command.changes]
  · intro bridge port named ported listed
    simp [render_removeAction named ported, Command.changes, wan_sensitive listed]

def isRiskyClient (ctx : PlanContext) (interface : Text) : Bool :=
  (managementSensitiveInterfaces ctx.snapshot ctx.wanInterfaces).any (fun sensitive =>
    decide (sensitive <:+: interface)) || "bridge".toList.isPrefixOf interface

/-- Whether a bridge is created for the guests and its name holds a sensitive one. -/
def isRiskyCreation (ctx : PlanContext) : Bool :=
  ctx.request.parent = none && findSuitableParentBridge ctx.snapshot ctx.wanInterfaces = none &&
    (managementSensitiveInterfaces ctx.snapshot ctx.wanInterfaces).any fun sensitive =>
      decide (sensitive <:+: defaultGuestBridgeName)

theorem assess_removeAction {snapshot : Snapshot} {wan : List Text} (bridge : Text) {port : Text}
    (listed : port ∈ wan) : assessManagementRisk snapshot wan (removeAction bridge port) = true := by
  have inside : port <:+: bridge ++ ':' :: port := ⟨bridge ++ [':'], [], by simp⟩
  have touched : (managementSensitiveInterfaces snapshot wan).any
      (actionTouchesInterface (removeAction bridge port)) = true := by
    apply List.any_eq_true.mpr
    refine ⟨port, wan_sensitive listed, ?_⟩
    simp [actionTouchesInterface, removeAction, inside]
  rw [assessManagementRisk, touched, Bool.true_or]
  rfl

theorem touches_moveAction (interface sensitive : Text) :
    actionTouchesInterface (moveAction interface) sensitive = decide (sensitive <:+: interface) := by
  rw [Bool.eq_iff_iff]
  simp only [actionTouchesInterface, moveAction, isNamed, ActionDetails.empty, Option.any_some,
    Option.any_none, Bool.or_eq_true, Bool.and_eq_true, decide_eq_true_eq, reduceCtorEq, false_and,
    Bool.false_eq_true, or_false]
  constructor
  · rintro (inside | ⟨-, rfl⟩)
    · exact of_decide_eq_true inside
    · exact List.infix_rfl
  · exact fun inside => .inl (decide_eq_true inside)

theorem assess_moveAction (ctx : PlanContext) (interface : Text) :
    assessManagementRisk ctx.snapshot ctx.wanInterfaces (moveAction interface) =
      isRiskyClient ctx interface := by
  have touched : actionTouchesInterface (moveAction interface) = fun sensitive =>
      decide (sensitive <:+: interface) := funext (touches_moveAction interface)
  rw [assessManagementRisk, touched, clientInterface_moveAction, isRiskyClient]
  rfl

theorem assess_bridgeAction (ctx : PlanContext) :
    assessManagementRisk ctx.snapshot ctx.wanInterfaces (bridgeAction ctx) = isRiskyCreation ctx := by
  unfold bridgeAction isRiskyCreation
  split
  · next parent named => simp [assessManagementRisk, named]
  · next unnamed =>
      split
      · next suitable found => simp [assessManagementRisk, found]
      · next missing =>
          have touched : ∀ sensitive, actionTouchesInterface ⟨0, .r4, .create, .bridge,
              defaultGuestBridgeName, .none, { ActionDetails.empty with name := some defaultGuestBridgeName }⟩
              sensitive = decide (sensitive <:+: defaultGuestBridgeName) := by
            intro sensitive
            simp [actionTouchesInterface, ActionDetails.empty, isNamed]
          rw [assessManagementRisk, funext touched]
          simp [unnamed, missing]

theorem any_assessed {ctx : PlanContext} (guests : hasGuests ctx = true) :
    (bareActions ctx).any (assessManagementRisk ctx.snapshot ctx.wanInterfaces) =
      (decide (wanInBridge ctx.snapshot ctx.wanInterfaces ≠ []) ||
        (dhcpClientsOnBridge ctx.snapshot).any (isRiskyClient ctx) || isRiskyCreation ctx) := by
  rw [bareActions, List.any_append, List.any_append, any_removals]
  · have moves : assessManagementRisk ctx.snapshot ctx.wanInterfaces ∘ moveAction = isRiskyClient ctx :=
      funext (assess_moveAction ctx)
    have mapped : assessManagementRisk ctx.snapshot ctx.wanInterfaces mappingAction = false := rfl
    rw [List.any_map, moves, guests, if_pos rfl, List.any_cons, mapped, List.any_cons,
      assess_bridgeAction, List.any_nil, Bool.false_or, Bool.or_false]
  · exact fun bridge port _ _ listed => assess_removeAction bridge listed

theorem guestBridge_bridgeAction (ctx : PlanContext) : ∃ bridge, bridge ≠ [] ∧
    (ctx.request.parent <|> (bridgeAction ctx).guestBridge) = some bridge := by
  unfold bridgeAction
  split
  · next parent named => exact ⟨parent, parent_named named, by rw [named]; rfl⟩
  · next unnamed =>
      rw [unnamed]
      split
      · next suitable found => exact ⟨suitable, findSuitableParentBridge_named found, rfl⟩
      · exact ⟨defaultGuestBridgeName, by decide, by decide⟩

theorem findSome_bareActions {ctx : PlanContext} (guests : hasGuests ctx = true) :
    (bareActions ctx).findSome? PlanAction.guestBridge = (bridgeAction ctx).guestBridge := by
  have removals : ((wanInBridge ctx.snapshot ctx.wanInterfaces).flatMap fun finding =>
      finding.2.map (removeAction finding.1)).findSome? PlanAction.guestBridge = none := by
    rw [List.findSome?_eq_none_iff]
    intro action listed
    obtain ⟨finding, -, inside⟩ := List.mem_flatMap.mp listed
    obtain ⟨port, -, rfl⟩ := List.mem_map.mp inside
    rfl
  have moves : ((dhcpClientsOnBridge ctx.snapshot).map moveAction).findSome? PlanAction.guestBridge =
      none := by
    rw [List.findSome?_eq_none_iff]
    intro action listed
    obtain ⟨interface, -, rfl⟩ := List.mem_map.mp listed
    rfl
  have mapped : mappingAction.guestBridge = none := rfl
  rw [bareActions, List.findSome?_append, List.findSome?_append, removals, moves, guests, if_pos rfl,
    List.findSome?_cons, mapped, List.findSome?_cons]
  cases (bridgeAction ctx).guestBridge <;> rfl

theorem guestPortCommands_opened {ctx : PlanContext} {plan : ConfigurationPlan}
    (requested : plan.requestedConfig = ctx.request)
    (bare : plan.actions.map PlanAction.bare = bareActions ctx) (guests : hasGuests ctx = true) :
    ∃ bridge, guestPortCommands plan = renderAddBridgePorts bridge ctx.request.guestInterfaces := by
  -- The guest ports are added where the rules were not stopped, whatever they are.
  obtain ⟨bridge, named, found⟩ := guestBridge_bridgeAction ctx
  have resolved : resolveParentBridge plan = some bridge := by
    have blind : plan.actions.findSome? PlanAction.guestBridge = (bridgeAction ctx).guestBridge := by
      rw [← findSome_bareActions guests, ← bare, List.findSome?_map]
      rfl
    rw [resolveParentBridge, requested, blind, ← found]
    cases ctx.request.parent <;> rfl
  exact ⟨bridge, by simp [guestPortCommands, resolved, Option.filter, named, requested]⟩

theorem mem_addBridgePort {plan : ConfigurationPlan} {bridge interface : Text} {index : Nat} :
    .addBridgePort bridge interface index ∈ planCommands plan ↔
      .addBridgePort bridge interface index ∈ guestPortCommands plan := by
  rw [planCommands, List.mem_append]
  constructor
  · rintro (rendered | added)
    · obtain ⟨action, -, listed⟩ := List.mem_flatMap.mp rendered
      unfold renderAction at listed
      split at listed
      · simp at listed
      · dsimp only at listed
        split at listed <;> simp at listed
      · simp at listed
      · simp at listed
    · exact added
  · exact Or.inr

theorem unbridged_iff (wan guests : List Text) (parent : Text) :
    (∀ bridge interface index, .addBridgePort bridge interface index ∈ renderAddBridgePorts parent guests →
      interface ∉ wan) ↔ guests.all (· ∉ wan) = true := by
  rw [List.all_eq_true]
  constructor
  · intro unbridged guest listed
    obtain ⟨index, inRange, rfl⟩ := List.getElem_of_mem listed
    have added : Command.addBridgePort parent guests[index] (index + 1) ∈
        renderAddBridgePorts parent guests := by
      refine List.mem_map.mpr ⟨(guests[index], index + 1), ?_, rfl⟩
      rw [Nat.add_comm, List.mk_add_mem_zipIdx_iff_getElem?]
      exact List.getElem?_eq_getElem inRange
    exact decide_eq_true (unbridged _ _ _ added)
  · intro outside bridge interface index added
    obtain ⟨entry, listed, same⟩ := List.mem_map.mp added
    cases same
    exact of_decide_eq_true (outside _ (List.fst_mem_of_mem_zipIdx listed))

/-- Exactly when nothing slips through. Where the rules are stopped, only the guest ports are
left; with guests, some action has to be risky, and without them none may need to be. -/
def isGuarded (ctx : PlanContext) : Bool :=
  let sensitive := managementSensitiveInterfaces ctx.snapshot ctx.wanInterfaces
  let guests := ctx.request.guestInterfaces
  if isBlocked ctx then ctx.request.parent = none || guests.all (· ∉ sensitive)
  else if hasGuests ctx then
    guests.all (· ∉ ctx.wanInterfaces) &&
      (guests.all (· ∉ sensitive) || wanInBridge ctx.snapshot ctx.wanInterfaces ≠ [] ||
        (dhcpClientsOnBridge ctx.snapshot).any (isRiskyClient ctx) || isRiskyCreation ctx)
  else
    wanInBridge ctx.snapshot ctx.wanInterfaces = [] &&
      (dhcpClientsOnBridge ctx.snapshot).all (· ∉ sensitive)

theorem risky_of_sensitive {ctx : PlanContext}
    (found : (dhcpClientsOnBridge ctx.snapshot).any
      (· ∈ managementSensitiveInterfaces ctx.snapshot ctx.wanInterfaces) = true) :
    (dhcpClientsOnBridge ctx.snapshot).any (isRiskyClient ctx) = true := by
  obtain ⟨interface, listed, sensitive⟩ := List.any_eq_true.mp found
  refine List.any_eq_true.mpr ⟨interface, listed, ?_⟩
  rw [isRiskyClient, Bool.or_eq_true, List.any_eq_true]
  exact .inl ⟨interface, of_decide_eq_true sensitive, decide_eq_true List.infix_rfl⟩

theorem guarded_iff (ctx : PlanContext) (plan : ConfigurationPlan) : Guarded ctx plan ↔
    (planRequiresSafetyNet plan.actions = true ∨ (planCommands plan).any (Command.changes
      (managementSensitiveInterfaces ctx.snapshot ctx.wanInterfaces)) = false) ∧
    (plan.conflicts = [] → ∀ bridge interface index,
      .addBridgePort bridge interface index ∈ guestPortCommands plan → interface ∉ ctx.wanInterfaces) := by
  constructor
  · rintro ⟨net, unbridged⟩
    exact ⟨(net_iff _ plan).mp net, fun clear bridge interface index added =>
      unbridged clear bridge interface index (mem_addBridgePort.mpr added)⟩
  · rintro ⟨net, unbridged⟩
    exact ⟨(net_iff _ plan).mpr net, fun clear bridge interface index added =>
      unbridged clear bridge interface index (mem_addBridgePort.mp added)⟩

theorem all_outside (interfaces guests : List Text) :
    guests.all (· ∉ interfaces) = !guests.any (· ∈ interfaces) := by
  rw [List.not_any_eq_all_not]
  congr 1
  funext guest
  exact decide_not

theorem guarded_blocked {ctx : PlanContext} {plan : ConfigurationPlan} (blocked : isBlocked ctx = true)
    (requested : plan.requestedConfig = ctx.request) (empty : plan.actions = [])
    (conflicted : plan.conflicts ≠ []) : Guarded ctx plan ↔ isGuarded ctx = true := by
  have ports : guestPortCommands plan = match ctx.request.parent with
      | some parent => renderAddBridgePorts parent ctx.request.guestInterfaces
      | none => [] := by
    rw [guestPortCommands, resolveParentBridge, requested, empty]
    cases parent : ctx.request.parent with
    | some name => simp [Option.filter, parent_named parent]
    | none => rfl
  have calm : planRequiresSafetyNet plan.actions = false := by rw [empty]; rfl
  rw [guarded_iff, any_planCommands, calm, empty, ports, isGuarded, if_pos blocked, all_outside]
  cases ctx.request.parent with
  | some parent => simp [any_renderAddBridgePorts, conflicted]
  | none => simp [conflicted]

theorem guarded_guests {ctx : PlanContext} {plan : ConfigurationPlan} (unblocked : isBlocked ctx = false)
    (requested : plan.requestedConfig = ctx.request) (guests : hasGuests ctx = true)
    (bare : plan.actions.map PlanAction.bare = bareActions ctx) (clear : plan.conflicts = [])
    (net : planRequiresSafetyNet plan.actions = (hasGuests ctx &&
      (bareActions ctx).any (assessManagementRisk ctx.snapshot ctx.wanInterfaces))) :
    Guarded ctx plan ↔ isGuarded ctx = true := by
  obtain ⟨bridge, ports⟩ := guestPortCommands_opened requested bare guests
  rw [guarded_iff, any_planCommands, ports, any_renderAddBridgePorts, unbridged_iff, net, guests,
    Bool.true_and, any_assessed guests,
    any_bare bare _ (fun action => by rw [renderAction_bare]), any_changes, isGuarded, unblocked,
    if_neg Bool.false_ne_true, guests, if_pos rfl, all_outside, all_outside]
  have risky := @risky_of_sensitive ctx
  revert risky
  generalize (dhcpClientsOnBridge ctx.snapshot).any (isRiskyClient ctx) = assessed
  generalize (dhcpClientsOnBridge ctx.snapshot).any _ = moved
  intro risky
  cases assessed with
  | true => simp [clear]
  | false =>
      have still : moved = false := Bool.eq_false_iff.mpr (fun held => Bool.false_ne_true (risky held))
      by_cases removed : wanInBridge ctx.snapshot ctx.wanInterfaces = []
      · simp [clear, still, removed, or_comm, and_comm]
      · simp [clear, removed]

theorem guarded_bare {ctx : PlanContext} {plan : ConfigurationPlan} (unblocked : isBlocked ctx = false)
    (requested : plan.requestedConfig = ctx.request) (unasked : hasGuests ctx = false)
    (bare : plan.actions.map PlanAction.bare = bareActions ctx)
    (net : planRequiresSafetyNet plan.actions = (hasGuests ctx &&
      (bareActions ctx).any (assessManagementRisk ctx.snapshot ctx.wanInterfaces))) :
    Guarded ctx plan ↔ isGuarded ctx = true := by
  have ports : guestPortCommands plan = [] := by
    have guestless : ctx.request.guestInterfaces = [] := by
      simpa [hasGuests] using unasked
    rw [guestPortCommands, requested, guestless]
    split <;> rfl
  rw [guarded_iff, any_planCommands, ports, net, unasked,
    any_bare bare _ (fun action => by rw [renderAction_bare]), any_changes, isGuarded, unblocked,
    if_neg Bool.false_ne_true, unasked, if_neg Bool.false_ne_true, all_outside]
  simp

/-- A plan is guarded exactly where the condition on what it was built from holds. -/
theorem planner_guarded_iff (ctx : PlanContext) (plan : ConfigurationPlan)
    (built : buildConfigurationPlan ctx = some plan) : Guarded ctx plan ↔ isGuarded ctx = true := by
  obtain ⟨builder, ran, rfl⟩ := Option.map_eq_some_iff.mp built
  rcases runRules_cases ran with ⟨blocked, empty, conflicted⟩ | ⟨unblocked, opened⟩
  · exact guarded_blocked blocked rfl empty conflicted
  · cases guests : hasGuests ctx with
    | true => exact guarded_guests unblocked rfl guests opened.bare opened.unblocked opened.net
    | false => exact guarded_bare unblocked rfl guests opened.bare opened.net

section Executed

def plainSnapshot : Snapshot where
  bridges := [⟨"bridge-lan".toList, ["ether3".toList]⟩]
  dhcpClients := ["ether1".toList]
  routes := [⟨"0.0.0.0/0".toList, some true, "ether1".toList⟩]
  ipAddresses := [⟨"ether1".toList, "10.0.0.2/24".toList⟩, ⟨"ether5".toList, "192.168.88.1/24".toList⟩]
  hotspotState := ⟨0, []⟩

def guestsOn (port : String) : PlanContext where
  snapshot := plainSnapshot
  request := ⟨[port.toList], [], none⟩
  wanInterfaces := ["ether1".toList]
  wanGatePasses := true
  networksOverlap := fun _ _ => some false

def builtFor (port : String) : ConfigurationPlan :=
  (buildConfigurationPlan (guestsOn port)).getD ⟨.draft, ⟨[], [], none⟩, [], [], []⟩

theorem planner_guarded_ether4 :
    buildConfigurationPlan (guestsOn "ether4") = some (builtFor "ether4") ∧
      Guarded (guestsOn "ether4") (builtFor "ether4") :=
  have built : buildConfigurationPlan (guestsOn "ether4") = some (builtFor "ether4") := rfl
  ⟨built, (planner_guarded_iff _ _ built).mpr (by decide +kernel)⟩

/-- The WAN port is asked for as a guest port, and is added to the bridge without a net. -/
theorem wan_port_bridged_unguarded :
    buildConfigurationPlan (guestsOn "ether1") = some (builtFor "ether1") ∧
      (builtFor "ether1").conflicts = [] ∧
      .addBridgePort "bridge-lan".toList "ether1".toList 1 ∈ planCommands (builtFor "ether1") ∧
      planRequiresSafetyNet (builtFor "ether1").actions = false ∧
      ¬ Guarded (guestsOn "ether1") (builtFor "ether1") := by
  have added : .addBridgePort "bridge-lan".toList "ether1".toList 1 ∈ planCommands (builtFor "ether1") := by
    decide +kernel
  refine ⟨rfl, rfl, added, by decide +kernel, fun guarded => ?_⟩
  exact guarded.unbridged rfl _ _ _ added (List.mem_singleton.mpr rfl)

end Executed

end CloudGuest.Planner
