import UrlRouting.Log.Event
import UrlRouting.Namespace.Generation
import UrlRouting.Namespace.Recognition
import UrlRouting.RouteFile.Basic

/-! The events that operations on namespaces log. They are read off what an operation was given and
what it answered. -/

namespace UrlRouting.Log

def coreTarget : String := "url_mapper::router::core"

def recognizeTarget : String := "url_mapper::router::recognize"

def generateTarget : String := "url_mapper::router::generate"

def loaderTarget : String := "url_mapper::loader"

def commandTarget : String := "url_mapper::cli::commands"

def namespaceField (ns : Namespace) : String × FieldValue := ("namespace", .text ns.id)

def textField (name value : String) : String × FieldValue := (name, .text value)

def aliasField (aliasName : Option String) : String × FieldValue :=
  textField "alias" (Quoted.optional aliasName)

def paramsField (params : ParameterSet) : String × FieldValue :=
  textField "params" params.described

def registered (r : Namespace.Registration) : Event :=
  ⟨.info, coreTarget, "Route registered",
    [namespaceField r.state, textField "pattern" r.route.pattern, aliasField r.route.aliasName,
      textField "required" (Quoted.set r.route.required), ("replaced", .flag r.replaced),
      ("routes_count", .number r.state.table.size)]⟩

def mountSet (ns : Namespace) : Event :=
  ⟨.debug, coreTarget, "Prefix set", [namespaceField ns, textField "prefix" ns.mount]⟩

def scriptNameSet (ns : Namespace) : Event :=
  ⟨.debug, coreTarget, "Script name set",
    [namespaceField ns, textField "script_name" ns.scriptName]⟩

def applied (f : RouteFile) (a : Application) : List Event :=
  (f.mount.toList.map fun _ => mountSet a.state) ++
    (f.scriptName.toList.map fun _ => scriptNameSet a.state) ++ a.registered.map registered

def loaded (path : String) (ns : Namespace) : Event :=
  ⟨.info, loaderTarget, "Route file loaded",
    [textField "path" path, ("routes_count", .number ns.table.size), textField "prefix" ns.mount]⟩

def recognitionEnd (ns : Namespace) (url : String) : Recognition → Event
  | .outside =>
    ⟨.debug, recognizeTarget, "URL outside namespace prefix",
      [namespaceField ns, textField "url" url, textField "prefix" ns.mount]⟩
  | .matched route path params =>
    ⟨.info, recognizeTarget, "Route matched",
      [namespaceField ns, textField "url" url, textField "path" path,
        textField "route_pattern" route.pattern, aliasField route.aliasName, paramsField params,
        ("duration_us", .elapsed)]⟩
  | .invalid route path candidates =>
    ⟨.warn, recognizeTarget, "Route shape matched but values are invalid",
      [namespaceField ns, textField "url" url, textField "path" path,
        textField "route_pattern" route.pattern, ("shape_candidates", .number candidates)]⟩
  | .unknown path =>
    ⟨.debug, recognizeTarget, "No route matched",
      [namespaceField ns, textField "url" url, textField "path" path, ("duration_us", .elapsed)]⟩

def recognized (ns : Namespace) (url : String) (r : Recognition) : List Event :=
  [⟨.debug, recognizeTarget, "Route match attempt", [namespaceField ns, textField "url" url]⟩,
    recognitionEnd ns url r]

def urlGenerated (ns : Namespace) (g : Generated) : Event :=
  ⟨.info, generateTarget, "URL generated",
    [namespaceField ns, textField "route_pattern" g.route.pattern, aliasField g.route.aliasName,
      textField "url" g.url]⟩

def generation (ns : Namespace) (aliasName : Option String) (params : ParameterSet)
    (message : String) : Event :=
  ⟨.debug, generateTarget, message, [namespaceField ns, aliasField aliasName, paramsField params]⟩

/-- The events of generation. The root route taken without an alias is found without an attempt. -/
def generated (ns : Namespace) (aliasName : Option String) (params : ParameterSet)
    (answer : Option Generated) : List Event :=
  let attempt :=
    if aliasName.isNone && (ns.rootFor? params).isSome then []
    else [generation ns aliasName params "Route generation attempt"]
  attempt ++ [match answer with
    | some g => urlGenerated ns g
    | none => generation ns aliasName params "No route can generate these parameters"]

def generationAsked (aliasName : Option String) (params : ParameterSet) : Event :=
  ⟨.debug, commandTarget, "Generating from command line",
    [aliasField aliasName, paramsField params]⟩

end UrlRouting.Log
