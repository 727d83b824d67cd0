import UrlRouting.Namespace.Recognition
import UrlRouting.Proofs.Namespace.Built
import UrlRouting.Proofs.Namespace.Generation
import UrlRouting.Proofs.Route.Alike

/-! Namespaces with equivalent defaults. Their tables hold alike routes at the same places, so both run
through their routes in step: what they generate from equivalent parameters is the same, and what they
recognize is equivalent. -/

namespace UrlRouting

variable {α β γ δ : Type} {R : α → β → Prop} {S : γ → δ → Prop} {xs : List α} {ys : List β}

theorem rel_findSome? {f : α → Option γ} {g : β → Option δ} (both : List.Forall₂ R xs ys)
    (results : ∀ {a b}, R a b → Option.Rel S (f a) (g b)) :
    Option.Rel S (xs.findSome? f) (ys.findSome? g) := by
  induction both with
  | nil => exact .none
  | @cons a b _ _ first _ ih =>
    have result := results first
    rw [List.findSome?_cons, List.findSome?_cons]
    revert result
    generalize f a = x, g b = y
    intro result
    cases result with
    | none => exact ih
    | some related => exact .some related

theorem rel_find? {p : α → Bool} {q : β → Bool} (both : List.Forall₂ R xs ys)
    (results : ∀ {a b}, R a b → p a = q b) : Option.Rel R (xs.find? p) (ys.find? q) := by
  induction both with
  | nil => exact .none
  | @cons a b _ _ first _ ih =>
    rw [List.find?_cons, List.find?_cons, results first]
    cases q b with
    | true => exact .some first
    | false => exact ih

namespace Namespace

/-- One mount point and script name, and alike routes in order. -/
structure Alike (ns ns' : Namespace) : Prop where
  built : ns.Built
  built' : ns'.Built
  mount_eq : ns.mount = ns'.mount
  script_eq : ns.scriptName = ns'.scriptName
  routes : List.Forall₂ Route.Alike ns.table.routes ns'.table.routes

/-- Both routes stand at one place of the two tables. -/
def Across (ns ns' : Namespace) (r s : Route) : Prop :=
  ∃ i : Nat, ns.table.routes[i]? = some r ∧ ns'.table.routes[i]? = some s

end Namespace

/-- Outcomes of one kind, with routes at one place of the tables and equivalent parameters. -/
inductive Recognition.Alike (ns ns' : Namespace) : Recognition → Recognition → Prop
  | matched {r s : Route} {p q : ParameterSet} (path : String) (place : ns.Across ns' r s)
      (params : p.Alike q) : Alike ns ns' (.matched r path p) (.matched s path q)
  | invalid {r s : Route} (path : String) (count : Nat) (place : ns.Across ns' r s) :
      Alike ns ns' (.invalid r path count) (.invalid s path count)
  | unknown (path : String) : Alike ns ns' (.unknown path) (.unknown path)
  | outside : Alike ns ns' .outside .outside

namespace Namespace

theorem Alike.refl {ns : Namespace} (built : ns.Built) : ns.Alike ns :=
  ⟨built, built, rfl, rfl, List.forall₂_same.2 fun r _ => .refl r⟩

theorem Across.eq {ns : Namespace} {r s : Route} (place : ns.Across ns r s) : r = s := by
  obtain ⟨i, here, there⟩ := place
  exact Option.some.inj (here.symm.trans there)

variable {ns ns' : Namespace} {p q : ParameterSet}

/-- Twins at one place of the two tables. -/
def Paired (ns ns' : Namespace) (r s : Route) : Prop := ns.Across ns' r s ∧ r.Twin s

/-- The same URL, from routes at one place of the two tables. -/
def SameUrl (ns ns' : Namespace) (g h : Generated) : Prop := ns.Across ns' g.route h.route ∧ g.url = h.url

theorem forall₂_across {R : Route → Route → Prop} (routes : List.Forall₂ R ns.table.routes ns'.table.routes) :
    List.Forall₂ (fun r s => ns.Across ns' r s ∧ R r s) ns.table.routes ns'.table.routes := by
  obtain ⟨lengths, pointwise⟩ := List.forall₂_iff_get.1 routes
  exact List.forall₂_iff_get.2 ⟨lengths, fun i here there =>
    ⟨⟨i, List.getElem?_eq_getElem here, List.getElem?_eq_getElem there⟩, pointwise i here there⟩⟩

theorem Across.compiled {r s : Route} (place : ns.Across ns' r s) (built : ns.Built) (built' : ns'.Built) :
    ∃ d e, Route.Compiled d r ∧ Route.Compiled e s := by
  obtain ⟨i, here, there⟩ := place
  obtain ⟨d, compiled⟩ := built.compiled r (List.mem_of_getElem? here)
  obtain ⟨e, compiled'⟩ := built'.compiled s (List.mem_of_getElem? there)
  exact ⟨d, e, compiled, compiled'⟩

namespace Alike

theorem paired (alike : ns.Alike ns') :
    List.Forall₂ (ns.Paired ns') ns.table.routes ns'.table.routes := by
  refine (forall₂_across alike.routes).imp fun r s both => ⟨both.1, ?_⟩
  obtain ⟨d, e, compiled, compiled'⟩ := both.1.compiled alike.built alike.built'
  exact compiled.twin compiled' both.2

theorem assemble (alike : ns.Alike ns') {r s : Route} (paired : ns.Paired ns' r s) (params : p.Alike q)
    (suffix : Suffix) : ns.SameUrl ns' (ns.assemble r p suffix) (ns'.assemble s q suffix) := by
  refine ⟨paired.1, ?_⟩
  rw [Namespace.assemble, Namespace.assemble, embed, embed, alike.mount_eq, alike.script_eq,
    paired.2.render_eq params]

theorem firstAccepting? (alike : ns.Alike ns') (params : p.Alike q) (aliasName : Option String)
    (suffix : Suffix) : Option.Rel (ns.SameUrl ns') (ns.firstAccepting? aliasName p suffix)
      (ns'.firstAccepting? aliasName q suffix) := by
  have named : List.Forall₂ (ns.Paired ns')
      (ns.table.routes.filter fun r => aliasName.all fun wanted => r.aliasName == some wanted)
      (ns'.table.routes.filter fun r => aliasName.all fun wanted => r.aliasName == some wanted) :=
    List.rel_filter (fun r s paired => by dsimp only; rw [paired.2.alias_eq]) alike.paired
  refine rel_findSome? named fun {r s} paired => ?_
  have both := paired.2.isSome_accept params
  cases here : r.accept p with
  | none =>
    rw [here] at both
    rw [Option.isNone_iff_eq_none.1 (Option.isSome_eq_false_iff.1 both.symm)]
    exact .none
  | some accepted =>
    rw [here] at both
    obtain ⟨accepted', there⟩ := Option.isSome_iff_exists.1 both.symm
    rw [there, Route.eq_of_accept here, Route.eq_of_accept there]
    exact .some (alike.assemble paired params suffix)

theorem generate (alike : ns.Alike ns') (params : p.Alike q) (suffix : Suffix) :
    Option.Rel (ns.SameUrl ns') (ns.generate p suffix) (ns'.generate q suffix) := by
  have root : Option.Rel (ns.Paired ns') (ns.rootFor? p) (ns'.rootFor? q) := by
    rw [rootFor?, rootFor?, params.isEmpty_eq]
    split
    · rw [alike.built.indexed.get?_eq_find?, alike.built'.indexed.get?_eq_find?]
      exact rel_find? alike.paired fun paired => by rw [paired.2.pattern_eq]
    · exact .none
  unfold Namespace.generate
  revert root
  generalize ns.rootFor? p = x, ns'.rootFor? q = y
  intro root
  cases root with
  | none => exact alike.firstAccepting? params none suffix
  | some paired => exact .some (alike.assemble paired (.refl _) suffix)

theorem firstCapture? {rs ss : List Route} (candidates : List.Forall₂ (ns.Paired ns') rs ss)
    (path : List Char) : Option.Rel (fun a b => ns.Across ns' a.1 b.1 ∧ a.2.Alike b.2)
      (Namespace.firstCapture? path rs) (Namespace.firstCapture? path ss) := by
  refine rel_findSome? candidates fun {r s} paired => ?_
  have captured := paired.2.capture path
  revert captured
  generalize r.capture path = x, s.capture path = y
  intro captured
  cases captured with
  | none => exact .none
  | some params => exact .some ⟨paired.1, params⟩

theorem recognize (alike : ns.Alike ns') (url : String) :
    Recognition.Alike ns ns' (ns.recognize url) (ns'.recognize url) := by
  have localPath : ns.localPath? url.toList = ns'.localPath? url.toList := by
    rw [localPath?, localPath?, alike.mount_eq, alike.script_eq]
  unfold Namespace.recognize
  rw [localPath]
  cases ns'.localPath? url.toList with
  | none => exact .outside
  | some path =>
    have candidates : List.Forall₂ (ns.Paired ns')
        (ns.table.routes.filter (·.matchesShape (Percent.unescape path)))
        (ns'.table.routes.filter (·.matchesShape (Percent.unescape path))) :=
      List.rel_filter (fun r s paired => by dsimp only; rw [paired.2.matchesShape_eq]) alike.paired
    have first := firstCapture? candidates (Percent.unescape path)
    dsimp only
    revert first
    generalize Namespace.firstCapture? _ _ = x, Namespace.firstCapture? _ _ = y
    intro first
    cases first with
    | some both => exact .matched _ both.1 both.2
    | none =>
      revert candidates
      generalize List.filter _ ns.table.routes = here, List.filter _ ns'.table.routes = there
      intro candidates
      cases candidates with
      | nil => exact .unknown _
      | cons paired rest =>
        dsimp only
        rw [List.length_cons, List.length_cons, rest.length_eq]
        exact .invalid _ _ paired.1

end Alike

theorem eq_of_sameUrl {g h : Option Generated} (same : Option.Rel (ns.SameUrl ns) g h) : g = h := by
  cases same with
  | none => rfl
  | @some g h both =>
    obtain ⟨r, url⟩ := g
    obtain ⟨s, url'⟩ := h
    obtain ⟨place, rfl⟩ := both
    obtain rfl : r = s := place.eq
    rfl

theorem map_url_of_sameUrl {g h : Option Generated} (same : Option.Rel (ns.SameUrl ns') g h) :
    g.map (·.url) = h.map (·.url) := by
  cases same with
  | none => rfl
  | some both => exact congrArg some both.2

/-- Equivalent parameters generate the same URL by the same route, and namespaces with equivalent defaults
generate the same URLs and recognize a URL alike. -/
theorem respects_equivalence (alike : ns.Alike ns') :
    (∀ p q : ParameterSet, p.Alike q → ∀ suffix,
      ns.generate p suffix = ns.generate q suffix ∧
      ∀ aliasName, ns.generateByAlias aliasName p suffix = ns.generateByAlias aliasName q suffix) ∧
    (∀ params suffix,
      (ns.generate params suffix).map (·.url) = (ns'.generate params suffix).map (·.url) ∧
      ∀ aliasName, (ns.generateByAlias aliasName params suffix).map (·.url) =
        (ns'.generateByAlias aliasName params suffix).map (·.url)) ∧
    ∀ url, Recognition.Alike ns ns' (ns.recognize url) (ns'.recognize url) := by
  have same : ns.Alike ns := .refl alike.built
  refine ⟨fun p q params suffix => ⟨?_, fun aliasName => ?_⟩,
    fun params suffix => ⟨?_, fun aliasName => ?_⟩, alike.recognize⟩
  · exact eq_of_sameUrl (same.generate params suffix)
  · exact eq_of_sameUrl (same.firstAccepting? params (some aliasName) suffix)
  · exact map_url_of_sameUrl (alike.generate (.refl params) suffix)
  · exact map_url_of_sameUrl (alike.firstAccepting? (.refl params) (some aliasName) suffix)

/-- A default given as an integer and the same given as text. -/
theorem respects_equivalence_page :
    ∃ (r s : Route) (ns ns' : Namespace), ns.table.routes = [r] ∧ ns'.table.routes = [s] ∧
      r.defaults.get? "page" = some (.int 1) ∧ s.defaults.get? "page" = some (.text "1") ∧ ns.Alike ns' ∧
      ((∀ p q : ParameterSet, p.Alike q → ∀ suffix,
        ns.generate p suffix = ns.generate q suffix ∧
        ∀ aliasName, ns.generateByAlias aliasName p suffix = ns.generateByAlias aliasName q suffix) ∧
      (∀ params suffix,
        (ns.generate params suffix).map (·.url) = (ns'.generate params suffix).map (·.url) ∧
        ∀ aliasName, (ns.generateByAlias aliasName params suffix).map (·.url) =
          (ns'.generateByAlias aliasName params suffix).map (·.url)) ∧
      ∀ url, Recognition.Alike ns ns' (ns.recognize url) (ns'.recognize url)) := by
  obtain ⟨r, compiled⟩ := Route.exists_compile
    (d := ⟨"posts/:page", some "posts", .ofList [("page", .int 1)], .empty⟩) (by decide +kernel)
  obtain ⟨s, compiled'⟩ := Route.exists_compile
    (d := ⟨"posts/:page", some "posts", .ofList [("page", .text "1")], .empty⟩) (by decide +kernel)
  have result := Route.compile_eq_ok_iff.1 compiled
  have result' := Route.compile_eq_ok_iff.1 compiled'
  have built : Built { new "" with table := .insert .empty r } :=
    .register (.new "") (by rw [register, compiled]; rfl)
  have built' : Built { new "" with table := .insert .empty s } :=
    .register (.new "") (by rw [register, compiled']; rfl)
  have defaults : r.defaults.Alike s.defaults := by
    rw [result.defaults_eq, result'.defaults_eq, ParameterSet.alike_iff_forall₂]
    exact .cons ⟨rfl, by decide⟩ .nil
  have routes : Route.Alike r s :=
    ⟨by rw [result.pattern_eq, result'.pattern_eq], by rw [result.alias_eq, result'.alias_eq],
      by rw [result.validators_eq, result'.validators_eq], defaults⟩
  have alike : Alike { new "" with table := .insert .empty r } { new "" with table := .insert .empty s } :=
    ⟨built, built', rfl, rfl, .cons routes .nil⟩
  refine ⟨r, s, _, _, rfl, rfl, ?_, ?_, alike, respects_equivalence alike⟩
  · rw [result.defaults_eq]
    decide
  · rw [result'.defaults_eq]
    decide

end Namespace

end UrlRouting
