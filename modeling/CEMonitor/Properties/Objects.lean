import CEMonitor.Objects

/-!
# What the objects in memory stand for

An object stands for a value, and owns what the value is made of: the objects its pointers lead
to, and nothing else. Every function on objects does to the values what the function of the same
name in `Types.lean` does, a copy owns new objects only, and a destructor leaves nothing of what
its object owned.
-/

namespace CEMonitor.Objects

open Infra Infra.Assertion

/-! ## Objects and values -/

abbrev isText (p : Nat) (s : String) : Assertion Cell := pointsTo p (.text s)

abbrev isDialect (p : Nat) (d : Dialect) : Assertion Cell := pointsTo p (.dialect d)

abbrev isParameter (p : Nat) (a : Parameter) : Assertion Cell := pointsTo p (.parameter a)

abbrev isProperty (p : Nat) (a : Property) : Assertion Cell := pointsTo p (.property a)

abbrev isQuery (p : Nat) (q : Query) : Assertion Cell := pointsTo p (.query q)

/-- The object at `p` is an action, with everything that it owns. -/
def isAction (p : Nat) (a : Action) : Assertion Cell :=
  ofSome fun o : ActionObject =>
    sep (pointsTo p (.action { o with doActionWhenQueryIs := a.doActionWhenQueryIs }))
      (sep (owned isText o.name a.name)
        (sep (owned isText o.type a.type)
          (sep (owned isText o.id a.id)
            (sep (owned isText o.jarPath a.jarPath)
              (sep (ownedAll (owned isParameter) o.parameter a.parameter)
                (ownedAll (owned isProperty) o.property a.property))))))

def isTopic (p : Nat) (t : Topic) : Assertion Cell :=
  ofSome fun dialect : List (Option Nat) =>
    sep (pointsTo p (.topic { name := t.name, visibility := t.visibility, dialect := dialect }))
      (ownedAll (owned isDialect) dialect t.dialect)

def isPolicy (p : Nat) (a : Policy) : Assertion Cell :=
  ofSome fun o : PolicyObject =>
    sep (pointsTo p (.policy { o with rate := a.rate }))
      (sep (owned isQuery o.query a.query) (ownedAll (owned isAction) o.action a.action))

def isSubscription (p : Nat) (s : CESubscription) : Assertion Cell :=
  ofSome fun o : Option Nat × Option Nat =>
    sep (pointsTo p (.subscription
        { base := s.base
          subscriptionID := s.subscriptionID
          topic := o.1
          policy := o.2
          consumerURL := s.consumerURL
          duration := s.duration }))
      (sep (owned isTopic o.1 s.topic) (owned isPolicy o.2 s.policy))

abbrev isManager (p : Nat) (m : CESubscriptionMgr) : Assertion Cell := pointsTo p (.manager m)

/-! ## Texts, dialects, parameters, properties and queries -/

section

variable {p : Nat}

/-- A copy of an object without pointers. -/
theorem copy_plain {β : Type} {cast : Cell → Option β} {a : Cell} {b : β} (f : β → Cell)
    (hcast : cast a = some b) :
    Makes (pointsTo p a) (Prog.loadAs cast p >>= fun b => Prog.new (f b) : Code Nat)
      (fun q => pointsTo q (f b)) :=
  Reads.step (Reads.loadAs hcast) (Makes.new (f b))

/-- An object without pointers, changed. -/
theorem change_plain {β : Type} {cast : Cell → Option β} {a : Cell} {b : β} (f : β → Cell)
    (hcast : cast a = some b) :
    Triple (pointsTo p a) (Prog.loadAs cast p >>= fun b => Prog.store p (f b) : Code Unit)
      (fun _ => pointsTo p (f b)) :=
  Reads.step (Reads.loadAs hcast) (Triple.store (f b))

theorem copyDialect_spec (d : Dialect) :
    Makes (isDialect p d) (copyDialect p) (fun q => isDialect q d.copy) :=
  copy_plain (fun d : Dialect => .dialect d.copy) rfl

theorem setDialectName_spec (newName : String) (d : Dialect) :
    Triple (isDialect p d) (setDialectName newName p)
      (fun _ => isDialect p (d.setDialectName newName)) :=
  change_plain (fun d : Dialect => .dialect (d.setDialectName newName)) rfl

theorem addQueryLanguage_spec (newQl : String) (d : Dialect) :
    Triple (isDialect p d) (addQueryLanguage newQl p)
      (fun _ => isDialect p (d.addQueryLanguage newQl)) :=
  change_plain (fun d : Dialect => .dialect (d.addQueryLanguage newQl)) rfl

theorem copyParameter_spec (a : Parameter) :
    Makes (isParameter p a) (copyParameter p) (fun q => isParameter q a) :=
  copy_plain (fun a : Parameter => .parameter { name := a.name, value := a.value }) rfl

theorem copyProperty_spec (a : Property) :
    Makes (isProperty p a) (copyProperty p) (fun q => isProperty q a) :=
  copy_plain (fun a : Property => .property { name := a.name, value := a.value }) rfl

theorem copyQuery_spec (q : Query) :
    Makes (isQuery p q) (copyQuery p) (fun r => isQuery r q) :=
  copy_plain
    (fun q : Query => .query { expression := q.expression, queryLanguage := q.queryLanguage }) rfl

theorem copyText_spec (p : Option Nat) (s : Option String) :
    Makes (owned isText p s) (copyText p) (fun q => isText q (s.getD "")) := by
  cases p with
  | none =>
    cases s with
    | none => exact Makes.new _
    | some s => exact Triple.of_false
  | some p =>
    cases s with
    | none => exact Triple.of_false
    | some s => exact copy_plain Cell.text rfl

/-- A loop that copies the entries of a vector, none of them null. -/
theorem copyEntries_spec {γ : Type} {S : Nat → γ → Assertion Cell} {copy : Nat → Code Nat}
    {g : γ → γ} {ps : List (Option Nat)} {vs : List (Option γ)} (hnull : none ∉ vs)
    (hcopy : ∀ p v, some v ∈ vs → Makes (S p v) (copy p) (fun q => S q (g v))) :
    Makes (ownedAll (owned S) ps vs) (Prog.each (copyEntry copy) ps)
      (fun qs => ownedAll (owned S) qs (vs.map fun v => v.map g)) := by
  refine Makes.each fun p v hv => ?_
  cases v with
  | none => exact absurd hv hnull
  | some v =>
    cases p with
    | none => exact Triple.of_false
    | some p =>
      refine Reads.address_step ?_
      exact Triple.bind (hcopy p v hv) fun q => Triple.pure (some q) fun _ hP => hP

end

/-! ## Topics -/

section

variable {p : Nat}

theorem isTopic_of_parts {name : String} {visibility : Option String} (ds : List (Option Nat))
    {dialect : List (Option Dialect)} (h : Cells Cell)
    (hparts : sep (pointsTo p (.topic { name := name, visibility := visibility, dialect := ds }))
      (ownedAll (owned isDialect) ds dialect) h) :
    isTopic p { name := name, visibility := visibility, dialect := dialect } h := ⟨ds, hparts⟩

theorem newTopic_spec (name : String) :
    Triple emp (Prog.new (.topic (TopicObject.new name)) : Code Nat)
      (fun p => isTopic p (Topic.new name)) := by
  refine Makes.new_last fun p h hp => isTopic_of_parts [] h ?_
  simp only [ownedAll]
  exact same (by ac_rfl) h hp

theorem copyTopic_spec (t : Topic) :
    Makes (isTopic p t) (copyTopic p) (fun q => isTopic q t.copy) := by
  refine Triple.ofSome fun ds => Reads.loadAs_step rfl ?_
  have hdialects : Makes (ownedAll (owned isDialect) ds t.dialect)
      (Prog.each (Prog.mapUnlessNull copyDialect) ds : Code _)
      (fun copies => ownedAll (owned isDialect) copies (t.dialect.map fun d => d.map Dialect.copy)) :=
    Makes.each fun _ _ _ => Makes.mapUnlessNull fun _ d _ => copyDialect_spec d
  refine Makes.step hdialects fun copies => ?_
  refine Makes.new_last fun q h hq => ?_
  exact sep_mono (isTopic_of_parts ds) (isTopic_of_parts copies) h (same (by ac_rfl) h hq)

theorem deleteTopic_spec (t : Topic) :
    Triple (isTopic p t) (deleteTopic p) (fun _ => emp) := by
  refine Triple.ofSome fun ds => Reads.loadAs_step rfl ?_
  have hdialects : Triple (ownedAll (owned isDialect) ds t.dialect)
      (Prog.forEach (Prog.unlessNull Prog.free) ds : Code Unit) (fun _ => emp) :=
    Triple.forEach fun _ _ _ => Triple.unlessNull fun _ _ _ => Triple.free
  exact Triple.discard hdialects Triple.free

theorem addDialect_spec {q : Option Nat} (d : Option Dialect) (t : Topic) :
    Triple (sep (isTopic p t) (owned isDialect q d)) (addDialect q p)
      (fun _ => sep (isTopic p (t.addDialect d)) (owned isDialect q d)) := by
  have hcopy : Makes (owned isDialect q d) (Prog.mapUnlessNull copyDialect q : Code _)
      (fun newDial => owned isDialect newDial (d.map Dialect.copy)) :=
    Makes.mapUnlessNull fun _ d _ => copyDialect_spec d
  refine Triple.of_some fun ds => Makes.step hcopy fun newDial => ?_
  refine Reads.loadAs_step rfl ?_
  refine Triple.store_last _ fun h hp => ?_
  refine sep_mono (isTopic_of_parts (ds ++ [newDial])) (fun _ hd => hd) h ?_
  rw [ownedAll_append]
  simp only at hp
  exact same (by ac_rfl) h hp

theorem setDialectNameAt_spec {idx : Nat} {d : Dialect} (newName : String) (t : Topic)
    (hd : t.dialect[idx]? = some (some d)) :
    Triple (isTopic p t) (setDialectNameAt idx newName p)
      (fun _ => isTopic p
        { t with dialect := t.dialect.set idx (some (d.setDialectName newName)) }) := by
  refine Triple.ofSome fun ds => Reads.loadAs_step rfl ?_
  refine Triple.of_ownedAll isDialect ds hd fun q G hq hset => ?_
  simp only [hq, Option.join_some]
  refine Reads.address_step <| Triple.last (setDialectName_spec newName d) fun _ h hp => ?_
  refine isTopic_of_parts ds h ?_
  rw [hset]
  exact same (by ac_rfl) h hp

theorem readTopic_spec (t : Topic) : Reads (isTopic p t) (readTopic p) t := by
  refine Reads.ofSome fun ds => Reads.loadAs_step rfl ?_
  have hdialects : Reads (ownedAll (owned isDialect) ds t.dialect)
      (Prog.each (Prog.mapUnlessNull (Prog.loadAs Cell.dialect?)) ds : Code _) t.dialect :=
    Reads.each fun _ _ _ => Reads.mapUnlessNull fun _ _ _ => Reads.loadAs rfl
  exact Reads.bind hdialects (Reads.pure t)

end

/-! ## Actions -/

section

variable {p : Nat}

theorem isAction_of_parts {name type id jarPath : Option String} {doActionWhenQueryIs : Bool}
    {parameter : List (Option Parameter)} {property : List (Option Property)} (o : ActionObject)
    (h : Cells Cell)
    (hparts : sep (pointsTo p (.action { o with doActionWhenQueryIs := doActionWhenQueryIs }))
      (sep (owned isText o.name name)
        (sep (owned isText o.type type)
          (sep (owned isText o.id id)
            (sep (owned isText o.jarPath jarPath)
              (sep (ownedAll (owned isParameter) o.parameter parameter)
                (ownedAll (owned isProperty) o.property property)))))) h) :
    isAction p
      { name := name
        type := type
        id := id
        jarPath := jarPath
        doActionWhenQueryIs := doActionWhenQueryIs
        parameter := parameter
        property := property } h := ⟨o, hparts⟩

theorem newAction_spec (name type : String) (doActionWhenQueryIs : Bool) :
    Triple emp (newAction name type doActionWhenQueryIs)
      (fun p => isAction p (Action.new name type doActionWhenQueryIs)) := by
  refine Makes.new_step fun name' => Makes.new_step fun type' => Makes.new_step fun id' => ?_
  refine Makes.new_step fun jarPath' => Makes.new_last fun p h hp => ?_
  refine isAction_of_parts
    { name := some name'
      type := some type'
      id := some id'
      jarPath := some jarPath'
      doActionWhenQueryIs := doActionWhenQueryIs
      parameter := []
      property := [] } h ?_
  simp only [owned_some, ownedAll, isText] at hp ⊢
  exact same (by ac_rfl) h hp

theorem copyAction_spec {a : Action} (ha : a.Intact) :
    Makes (isAction p a) (copyAction p) (fun q => isAction q a.copied) := by
  refine Triple.ofSome fun o => Reads.loadAs_step rfl ?_
  have hname := copyText_spec o.name a.name
  have htype := copyText_spec o.type a.type
  have hid := copyText_spec o.id a.id
  have hparameter : Makes (ownedAll (owned isParameter) o.parameter a.parameter)
      (Prog.each (copyEntry copyParameter) o.parameter)
      (fun qs => ownedAll (owned isParameter) qs (a.parameter.map fun v => v.map id)) :=
    copyEntries_spec ha.1 fun _ v _ => copyParameter_spec v
  have hproperty : Makes (ownedAll (owned isProperty) o.property a.property)
      (Prog.each (copyEntry copyProperty) o.property)
      (fun qs => ownedAll (owned isProperty) qs (a.property.map fun v => v.map id)) :=
    copyEntries_spec ha.2 fun _ v _ => copyProperty_spec v
  refine Makes.step hname fun name => Makes.step htype fun type => Makes.step hid fun id' => ?_
  refine Makes.step hparameter fun parameter => Makes.step hproperty fun property => ?_
  refine Makes.new_step fun jarPath => Makes.new_last fun q h hq => ?_
  refine sep_mono (isAction_of_parts o) (isAction_of_parts
    { name := some name
      type := some type
      id := some id'
      jarPath := some jarPath
      doActionWhenQueryIs := a.doActionWhenQueryIs
      parameter := parameter
      property := property }) h ?_
  simp only [Option.map_id_fun, id_eq, List.map_id', owned_some, isText] at hq ⊢
  exact same (by ac_rfl) h hq

theorem deleteAction_spec (a : Action) :
    Triple (isAction p a) (deleteAction p) (fun _ => emp) := by
  refine Triple.ofSome fun o => Reads.loadAs_step rfl ?_
  have htext : ∀ (q : Option Nat) (s : Option String),
      Triple (owned isText q s) (Prog.unlessNull Prog.free q : Code Unit) (fun _ => emp) :=
    fun q s => Triple.unlessNull fun _ _ _ => Triple.free
  have hparameter : Triple (ownedAll (owned isParameter) o.parameter a.parameter)
      (Prog.forEach (Prog.unlessNull Prog.free) o.parameter : Code Unit) (fun _ => emp) :=
    Triple.forEach fun _ _ _ => Triple.unlessNull fun _ _ _ => Triple.free
  have hproperty : Triple (ownedAll (owned isProperty) o.property a.property)
      (Prog.forEach (Prog.unlessNull Prog.free) o.property : Code Unit) (fun _ => emp) :=
    Triple.forEach fun _ _ _ => Triple.unlessNull fun _ _ _ => Triple.free
  refine Triple.discard hparameter <| Triple.discard hproperty ?_
  refine Triple.discard (htext o.id a.id) <| Triple.discard (htext o.jarPath a.jarPath) ?_
  exact Triple.discard (htext o.name a.name) <| Triple.discard (htext o.type a.type) Triple.free

theorem addParameter_spec {q : Nat} (d : Parameter) (a : Action) :
    Triple (sep (isAction p a) (isParameter q d)) (addParameter q p)
      (fun _ => sep (isAction p (a.addParameter d)) (isParameter q d)) := by
  refine Triple.of_some fun o => Makes.step (copyParameter_spec d) fun newP => ?_
  refine Reads.loadAs_step rfl <| Triple.store_last _ fun h hp => ?_
  refine sep_mono (isAction_of_parts { o with parameter := o.parameter ++ [some newP] })
    (fun _ hd => hd) h ?_
  rw [ownedAll_append]
  simp only [owned_some] at hp ⊢
  exact same (by ac_rfl) h hp

theorem readAction_spec (a : Action) : Reads (isAction p a) (readAction p) a := by
  refine Reads.ofSome fun o => Reads.loadAs_step rfl ?_
  have htext : ∀ (q : Option Nat) (s : Option String),
      Reads (owned isText q s) (Prog.mapUnlessNull (Prog.loadAs Cell.text?) q : Code _) s :=
    fun q s => Reads.mapUnlessNull fun _ _ _ => Reads.loadAs rfl
  have hparameter : Reads (ownedAll (owned isParameter) o.parameter a.parameter)
      (Prog.each (Prog.mapUnlessNull (Prog.loadAs Cell.parameter?)) o.parameter : Code _)
      a.parameter :=
    Reads.each fun _ _ _ => Reads.mapUnlessNull fun _ _ _ => Reads.loadAs rfl
  have hproperty : Reads (ownedAll (owned isProperty) o.property a.property)
      (Prog.each (Prog.mapUnlessNull (Prog.loadAs Cell.property?)) o.property : Code _)
      a.property :=
    Reads.each fun _ _ _ => Reads.mapUnlessNull fun _ _ _ => Reads.loadAs rfl
  refine Reads.bind (htext o.name a.name) <| Reads.bind (htext o.type a.type) ?_
  refine Reads.bind (htext o.id a.id) <| Reads.bind (htext o.jarPath a.jarPath) ?_
  exact Reads.bind hparameter <| Reads.bind hproperty (Reads.pure a)

end

/-! ## Policies -/

section

variable {p : Nat}

theorem isPolicy_of_parts {query : Option Query} {action : List (Option Action)} {rate : Int}
    (o : PolicyObject) (h : Cells Cell)
    (hparts : sep (pointsTo p (.policy { o with rate := rate }))
      (sep (owned isQuery o.query query) (ownedAll (owned isAction) o.action action)) h) :
    isPolicy p { query := query, action := action, rate := rate } h := ⟨o, hparts⟩

theorem newPolicy_spec (rate : Int) :
    Triple emp (Prog.new (.policy { query := none, action := [], rate := rate }) : Code Nat)
      (fun p => isPolicy p (Policy.new rate)) := by
  refine Makes.new_last fun p h hp => ?_
  refine isPolicy_of_parts { query := none, action := [], rate := rate } h ?_
  simp only [owned_none, ownedAll]
  exact same (by ac_rfl) h hp

/-- The values of a policy's copy. -/
theorem copyPolicy_spec {a : Policy} (ha : a.Intact) :
    Makes (isPolicy p a) (copyPolicy p)
      (fun q => isPolicy q { a with action := a.action.map fun v => v.map Action.copied }) := by
  have hnull : none ∉ a.action := by
    intro hmem
    obtain ⟨b, hb, -⟩ := ha none hmem
    cases hb
  have hintact : ∀ b, some b ∈ a.action → b.Intact := by
    intro b hmem
    obtain ⟨b', hb, hintact⟩ := ha (some b) hmem
    cases hb
    exact hintact
  refine Triple.ofSome fun o => Reads.loadAs_step rfl ?_
  have hquery : Makes (owned isQuery o.query a.query)
      (Prog.mapUnlessNull copyQuery o.query : Code _)
      (fun r => owned isQuery r (a.query.map id)) :=
    Makes.mapUnlessNull fun _ q _ => copyQuery_spec q
  have haction : Makes (ownedAll (owned isAction) o.action a.action)
      (Prog.each (copyEntry copyAction) o.action)
      (fun qs => ownedAll (owned isAction) qs (a.action.map fun v => v.map Action.copied)) :=
    copyEntries_spec hnull fun _ b hb => copyAction_spec (hintact b hb)
  refine Makes.step hquery fun query => Makes.step haction fun action => ?_
  refine Makes.new_last fun q h hq => ?_
  refine sep_mono (isPolicy_of_parts o)
    (isPolicy_of_parts { query := query, action := action, rate := a.rate }) h ?_
  simp only [Option.map_id_fun, id_eq] at hq ⊢
  exact same (by ac_rfl) h hq

theorem deletePolicy_spec (a : Policy) :
    Triple (isPolicy p a) (deletePolicy p) (fun _ => emp) := by
  refine Triple.ofSome fun o => Reads.loadAs_step rfl ?_
  have hquery : Triple (owned isQuery o.query a.query)
      (Prog.unlessNull Prog.free o.query : Code Unit) (fun _ => emp) :=
    Triple.unlessNull fun _ _ _ => Triple.free
  have haction : Triple (ownedAll (owned isAction) o.action a.action)
      (Prog.forEach (Prog.unlessNull deleteAction) o.action : Code Unit) (fun _ => emp) :=
    Triple.forEach fun _ _ _ => Triple.unlessNull fun _ b _ => deleteAction_spec b
  exact Triple.discard hquery <| Triple.discard haction Triple.free

theorem addAction_spec {q : Nat} {b : Action} (hb : b.Intact) (a : Policy) :
    Triple (sep (isPolicy p a) (isAction q b)) (addAction q p)
      (fun _ => sep (isPolicy p { a with action := a.action ++ [some b.copied] })
        (isAction q b)) := by
  refine Triple.of_some fun o => Makes.step (copyAction_spec hb) fun tmpA => ?_
  refine Reads.loadAs_step rfl <| Triple.store_last _ fun h hp => ?_
  refine sep_mono (isPolicy_of_parts { o with action := o.action ++ [some tmpA] })
    (fun _ hd => hd) h ?_
  rw [ownedAll_append]
  simp only [owned_some] at hp ⊢
  exact same (by ac_rfl) h hp

theorem addParameterAt_spec {idx q : Nat} {b : Action} (d : Parameter) (a : Policy)
    (hb : a.action[idx]? = some (some b)) :
    Triple (sep (isPolicy p a) (isParameter q d)) (addParameterAt idx q p)
      (fun _ => sep (isPolicy p { a with action := a.action.set idx (some (b.addParameter d)) })
        (isParameter q d)) := by
  refine Triple.of_some fun o => Reads.loadAs_step rfl ?_
  refine Triple.of_ownedAll isAction o.action hb fun r G hr hset => ?_
  simp only [hr, Option.join_some]
  refine Reads.address_step <| Triple.last (addParameter_spec d b) fun _ h hp => ?_
  refine sep_mono (isPolicy_of_parts o) (fun _ hd => hd) h ?_
  rw [hset]
  exact same (by ac_rfl) h hp

theorem setQuery_spec {q : Option Nat} (d : Option Query) (a : Policy) :
    Triple (sep (isPolicy p a) (owned isQuery q d)) (setQuery q p)
      (fun _ => sep (isPolicy p (a.setQuery d)) (owned isQuery q d)) := by
  refine Triple.of_some fun o => Reads.loadAs_step rfl ?_
  have hold : Triple (owned isQuery o.query a.query)
      (Prog.unlessNull Prog.free o.query : Code Unit) (fun _ => emp) :=
    Triple.unlessNull fun _ _ _ => Triple.free
  have hcopy : Makes (owned isQuery q d) (Prog.mapUnlessNull copyQuery q : Code _)
      (fun r => owned isQuery r (d.map id)) :=
    Makes.mapUnlessNull fun _ q _ => copyQuery_spec q
  refine Triple.discard hold <| Makes.step hcopy fun query => ?_
  refine Triple.store_last _ fun h hp => ?_
  refine sep_mono (isPolicy_of_parts { o with query := query }) (fun _ hd => hd) h ?_
  simp only [Option.map_id_fun, id_eq] at hp ⊢
  exact same (by ac_rfl) h hp

theorem addAction_Query_spec {q : Nat} {r : Option Nat} {b : Action} (hb : b.Intact)
    (d : Option Query) (a : Policy) :
    Triple (sep (sep (isPolicy p a) (isAction q b)) (owned isQuery r d)) (addAction_Query q r p)
      (fun _ => sep
        (sep (isPolicy p { a with action := a.action ++ [some b.copied], query := d }) (isAction q b))
        (owned isQuery r d)) := by
  refine Triple.step (addAction_spec hb a) fun _ => ?_
  refine Triple.last (setQuery_spec d { a with action := a.action ++ [some b.copied] })
    fun _ => same ?_
  unfold Policy.setQuery
  ac_rfl

theorem readPolicy_spec (a : Policy) : Reads (isPolicy p a) (readPolicy p) a := by
  refine Reads.ofSome fun o => Reads.loadAs_step rfl ?_
  have hquery : Reads (owned isQuery o.query a.query)
      (Prog.mapUnlessNull (Prog.loadAs Cell.query?) o.query : Code _) a.query :=
    Reads.mapUnlessNull fun _ _ _ => Reads.loadAs rfl
  have haction : Reads (ownedAll (owned isAction) o.action a.action)
      (Prog.each (Prog.mapUnlessNull readAction) o.action : Code _) a.action :=
    Reads.each fun _ _ _ => Reads.mapUnlessNull fun _ b _ => readAction_spec b
  exact Reads.bind hquery <| Reads.bind haction (Reads.pure a)

end

/-! ## Requests -/

section

variable {p : Nat}

theorem isSubscription_of_parts {base : AbsRequest} {subscriptionID consumerURL : String}
    {duration : Int} {topic : Option Topic} {policy : Option Policy} (q r : Option Nat)
    (h : Cells Cell)
    (hparts : sep (pointsTo p (.subscription
        { base := base
          subscriptionID := subscriptionID
          topic := q
          policy := r
          consumerURL := consumerURL
          duration := duration }))
      (sep (owned isTopic q topic) (owned isPolicy r policy)) h) :
    isSubscription p
      { base := base
        subscriptionID := subscriptionID
        topic := topic
        policy := policy
        consumerURL := consumerURL
        duration := duration } h := ⟨(q, r), hparts⟩

theorem newSubscription_spec (n : FaultIntegers) :
    Triple emp (newSubscription n) (fun p => isSubscription p (CESubscription.new n)) := by
  refine Makes.new_last fun p h hp => isSubscription_of_parts none none h ?_
  simp only [owned_none]
  exact same (by ac_rfl) h hp

theorem deleteSubscription_spec (s : CESubscription) :
    Triple (isSubscription p s) (deleteSubscription p) (fun _ => emp) := by
  refine Triple.ofSome fun o => Reads.loadAs_step rfl ?_
  have htopic : Triple (owned isTopic o.1 s.topic) (Prog.unlessNull deleteTopic o.1)
      (fun _ => emp) := Triple.unlessNull fun _ t _ => deleteTopic_spec t
  have hpolicy : Triple (owned isPolicy o.2 s.policy) (Prog.unlessNull deletePolicy o.2)
      (fun _ => emp) := Triple.unlessNull fun _ a _ => deletePolicy_spec a
  exact Triple.discard htopic <| Triple.discard hpolicy Triple.free

/-- The old topic and policy are gone, and the new ones are the object's own. -/
theorem setSubscribeParam_spec {q r : Nat} {a : Policy} (consumer : String) (t : Topic)
    (ha : a.Intact) (duration : Int) (s : CESubscription) :
    Triple (sep (isSubscription p s) (sep (isTopic q t) (isPolicy r a)))
      (setSubscribeParam consumer q r duration p)
      (fun _ => sep
        (isSubscription p
          { s with
            consumerURL := consumer
            topic := some t.copy
            policy := some { a with action := a.action.map fun v => v.map Action.copied }
            duration := duration })
        (sep (isTopic q t) (isPolicy r a))) := by
  refine Triple.of_some fun o => Reads.loadAs_step rfl ?_
  have htopic : Triple (owned isTopic o.1 s.topic) (Prog.unlessNull deleteTopic o.1)
      (fun _ => emp) := Triple.unlessNull fun _ t _ => deleteTopic_spec t
  have hpolicy : Triple (owned isPolicy o.2 s.policy) (Prog.unlessNull deletePolicy o.2)
      (fun _ => emp) := Triple.unlessNull fun _ a _ => deletePolicy_spec a
  refine Triple.discard htopic <| Triple.discard hpolicy ?_
  refine Makes.step (copyTopic_spec t) fun newTopic => ?_
  refine Makes.step (copyPolicy_spec ha) fun newPolicy => ?_
  refine Triple.store_last _ fun h hp => ?_
  refine sep_mono (isSubscription_of_parts (some newTopic) (some newPolicy)) (fun _ hd => hd) h ?_
  simp only [owned_some] at hp ⊢
  exact same (by ac_rfl) h hp

theorem follow_spec {β : Type} {S : Nat → β → Assertion Cell} {read : Nat → Code β}
    (url : String) (q : Option Nat) (v : Option β) (hread : ∀ p b, Reads (S p b) (read p) b) :
    Reads (owned S q v) (follow url read q) (if url = "" then none else v) := by
  unfold follow
  split
  · exact Reads.pure none
  · exact Reads.mapUnlessNull fun p b _ => hread p b

/-- gSOAP looks at the topic and the policy only when there is a request. -/
theorem subscribe_follow (rt : SoapRuntime) (x : Exchange (Option SubscriptionRef))
    (s : CESubscription) :
    let k := CESubscription.subscribe rt x
      { s with
        topic := if s.consumerURL = "" then none else s.topic
        policy := if s.consumerURL = "" then none else s.policy }
    (k.outcome, k.sent) = ((s.subscribe rt x).outcome, (s.subscribe rt x).sent) ∧
    { s with base := k.obj.base, subscriptionID := k.obj.subscriptionID } =
      (s.subscribe rt x).obj := by
  by_cases hurl : s.consumerURL = ""
  · simp only [CESubscription.subscribe, if_pos hurl, and_self]
  · simp only [CESubscription.subscribe, if_neg hurl, true_and]
    split
    · split <;> rfl
    · rfl

theorem subscribe_spec (rt : SoapRuntime) (x : Exchange (Option SubscriptionRef))
    (s : CESubscription) :
    Triple (isSubscription p s) (subscribe rt x p)
      (fun reply => sep (fact (reply = ((s.subscribe rt x).outcome, (s.subscribe rt x).sent)))
        (isSubscription p (s.subscribe rt x).obj)) := by
  obtain ⟨hreply, hobj⟩ := subscribe_follow rt x s
  rw [← hreply, ← hobj]
  refine Triple.ofSome fun o => Reads.loadAs_step rfl ?_
  refine Reads.step (follow_spec s.consumerURL o.1 s.topic fun _ t => readTopic_spec t) ?_
  refine Reads.step (follow_spec s.consumerURL o.2 s.policy fun _ a => readPolicy_spec a) ?_
  refine Triple.store_step <| Triple.pure _ fun h hp => fact_sep_iff.mpr ⟨rfl, ?_⟩
  refine isSubscription_of_parts o.1 o.2 h ?_
  exact same (by ac_rfl) h hp

theorem update_spec (rt : SoapRuntime) {q r : Nat} (endpoint subid newConsumerURL : String)
    (topic : Topic) (policy : Policy) (t : Int) (x : Exchange (Option SubscriptionRef))
    (m : CESubscriptionMgr) :
    let k := m.update rt endpoint subid newConsumerURL topic policy t x
    Triple (sep (isManager p m) (sep (isTopic q topic) (isPolicy r policy)))
      (update rt endpoint subid newConsumerURL q r t x p)
      (fun reply => sep (fact (reply = (k.outcome.map fun _ => (), k.sent)))
        (sep (isManager p k.obj) (sep (isTopic q topic) (isPolicy r policy)))) := by
  refine Reads.loadAs_step rfl <| Reads.step (readTopic_spec topic) ?_
  refine Reads.step (readPolicy_spec policy) ?_
  exact Triple.store_step <| Triple.pure _ fun h hp => fact_sep_iff.mpr ⟨rfl, hp⟩

end

/-! ## Events -/

section

variable {p : Nat}

/-- The object at `p` is an event that points at a topic, which it does not own. -/
abbrev isEvent (p : Nat) (topic : Option Nat) (e : CEEvent) : Assertion Cell :=
  pointsTo p (.event (.ofEvent topic e))

theorem setRequestParam_spec (topic q : Option Nat) (e : CEEvent) :
    Triple (isEvent p q e) (setRequestParam topic p) (fun _ => isEvent p topic e) := by
  have hcast : Cell.event? (.event (.ofEvent q e)) = some (.ofEvent q e) := rfl
  exact change_plain (fun o : EventObject => .event { o with topic := topic }) hcast

theorem getTopicEvents_follow (rt : SoapRuntime) (eventMex : List (List String))
    (x : Exchange (Option (List (Option Event)))) (e : CEEvent) :
    let k := CEEvent.getTopicEvents rt eventMex x
      { e with topic := if e.base.serviceURL = "" then none else e.topic }
    k.outcome = (e.getTopicEvents rt eventMex x).outcome ∧
    k.sent = (e.getTopicEvents rt eventMex x).sent ∧
    ∀ q, EventObject.ofEvent q k.obj = .ofEvent q (e.getTopicEvents rt eventMex x).obj := by
  by_cases hurl : e.base.serviceURL = ""
  · simp only [CEEvent.getTopicEvents, if_pos hurl, true_and]
    exact fun _ => rfl
  · simp only [CEEvent.getTopicEvents, if_neg hurl, implies_true, and_self]

/-- The topic is somebody else's, and read where it is. -/
theorem getTopicEvents_spec (rt : SoapRuntime) (eventMex : List (List String))
    (x : Exchange (Option (List (Option Event)))) (q : Option Nat) (e : CEEvent) :
    let k := e.getTopicEvents rt eventMex x
    Triple (sep (isEvent p q e) (owned isTopic q e.topic)) (getTopicEvents rt eventMex x p)
      (fun reply => sep (fact (reply = (k.outcome.map fun _ => (), k.sent)))
        (sep (isEvent p q k.obj) (owned isTopic q e.topic))) := by
  obtain ⟨houtcome, hsent, hobj⟩ := getTopicEvents_follow rt eventMex x e
  refine Reads.loadAs_step rfl ?_
  refine Reads.step (follow_spec e.base.serviceURL q e.topic fun _ t => readTopic_spec t) ?_
  refine Triple.store_step <| Triple.pure _ fun h hp => fact_sep_iff.mpr ⟨?_, ?_⟩
  · exact Prod.ext (congrArg (Outcome.map fun _ => ()) houtcome) hsent
  · rw [isEvent, ← hobj q]
    exact hp

end

end CEMonitor.Objects
