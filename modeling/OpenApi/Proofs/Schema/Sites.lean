import OpenApi.Proofs.Pointer
import OpenApi.Schema.Body
/-! The places at which the schemas of bodies stand. A list of bodies is read off the sites of a
document one by one. -/
namespace OpenApi.Schema

def BodySlot.location : BodySlot → List String
  | .request => ["requestBody"]
  | .response status => ["responses", status]

namespace Body
open Pointer (Stands)

structure Place where
  path : String
  method : String
  slot : BodySlot
  media : String
  deriving DecidableEq

def Place.location (p : Place) : List String :=
  ["paths", p.path, p.method] ++ (p.slot.location ++ ["content", p.media, "schema"])

structure Site where
  place : Place
  schema : Json

def media? (body : Json) : Option (String × Json) := do
  let media ← body.getFields? "content"
  let preferred := (Fields.get? preferredMedia media).bind (Json.get? "schema")
  (preferred.map (preferredMedia, ·)).or
    (media.findSome? fun m => (m.2.get? "schema").map (m.1, ·))

def sitesOf (path method : String) (operation : Json) : List Site :=
  (slots operation).filterMap fun (slot, body) =>
    (media? body).map fun (media, schema) => ⟨⟨path, method, slot, media⟩, schema⟩

def sites (document : Json) : List Site :=
  ((document.getFields? "paths").getD []).flatMap fun (path, item) =>
    methods.flatMap fun method => (item.get? method).elim [] (sitesOf path method)

def Site.body? (declared : Fields Json) (site : Site) : Option Body :=
  if isAnonymous declared site.schema then
    some ⟨bodyName site.place.method site.place.path site.place.slot, site.schema⟩
  else none

theorem mediaSchema (body : Json) : schema? body = (media? body).map (·.2) := by
  unfold schema? media?
  cases body.getFields? "content" with
  | none => rfl
  | some media =>
    simp only [Option.bind_eq_bind, Option.bind_some]
    cases (Fields.get? preferredMedia media).bind (Json.get? "schema") with
    | some schema => rfl
    | none => simp [List.map_findSome?, Function.comp_def]

theorem collectSitesOf (declared : Fields Json) (path method : String) (operation : Json) :
    ofOperation declared method path operation =
      (sitesOf path method operation).filterMap (Site.body? declared) := by
  unfold ofOperation sitesOf
  rw [List.filterMap_filterMap]
  refine congrArg (List.filterMap · _) (funext fun (slot, body) => ?_)
  simp only [mediaSchema]
  cases media? body with
  | none => rfl
  | some chosen =>
    simp only [Option.map_some, Option.filter, Site.body?, Option.bind_some]
    split <;> rfl

theorem collectSites (declared : Fields Json) (document : Json) :
    collect declared document = (sites document).filterMap (Site.body? declared) := by
  unfold collect sites
  rw [List.filterMap_flatMap]
  refine congrArg (List.flatMap · _) (funext fun (path, item) => ?_)
  rw [List.filterMap_flatMap]
  refine congrArg (List.flatMap · _) (funext fun method => ?_)
  cases item.get? method with
  | none => rfl
  | some operation => exact collectSitesOf declared path method operation

theorem standsAt {value child part : Json} {key : String} {rest : List String}
    (given : value.get? key = some child) (inside : Stands child rest part) :
    Stands value (key :: rest) part := by
  cases value <;> simp only [Json.get?, reduceCtorEq] at given
  exact .field (Fields.getMember given) inside

theorem standsIn {value part : Json} {key : String} {rest : List String} {m : String × Json}
    (member : m ∈ (value.getFields? key).getD []) (inside : Stands m.2 rest part) :
    Stands value (key :: m.1 :: rest) part := by
  cases found : value.getFields? key with
  | none => simp [found] at member
  | some fields =>
    rw [found] at member
    exact standsAt (Json.getFieldsObject.mp found) (.field member inside)

theorem mediaStands {body schema : Json} {media : String} (chosen : media? body = some (media, schema)) :
    Stands body ["content", media, "schema"] schema := by
  obtain ⟨contents, given, either⟩ := Option.bind_eq_some_iff.mp chosen
  have listed {value} (member : (media, value) ∈ contents) (inner : value.get? "schema" = some schema) :
      Stands body ["content", media, "schema"] schema :=
    standsAt (Json.getFieldsObject.mp given) (.field member (standsAt inner .here))
  rcases Option.or_eq_some_iff.mp either with preferred | ⟨-, other⟩
  · obtain ⟨schema, found, same⟩ := Option.map_eq_some_iff.mp preferred
    cases same
    obtain ⟨value, get, inner⟩ := Option.bind_eq_some_iff.mp found
    exact listed (Fields.getMember get) inner
  · obtain ⟨m, member, found⟩ := List.exists_of_findSome?_eq_some other
    obtain ⟨schema, inner, same⟩ := Option.map_eq_some_iff.mp found
    cases same
    exact listed member inner

theorem slotStands {operation body part : Json} {slot : BodySlot} {rest : List String}
    (listed : (slot, body) ∈ slots operation) (inside : Stands body rest part) :
    Stands operation (slot.location ++ rest) part := by
  rcases List.mem_append.mp listed with requested | responded
  · obtain ⟨_, given, same⟩ := List.mem_map.mp requested
    cases same
    exact standsAt (Option.mem_toList.mp given) inside
  · obtain ⟨_, member, same⟩ := List.mem_map.mp responded
    cases same
    exact standsIn member inside

theorem siteStands {document : Json} {site : Site} (listed : site ∈ sites document) :
    Stands document site.place.location site.schema := by
  obtain ⟨⟨path, item⟩, among, operations⟩ := List.mem_flatMap.mp listed
  obtain ⟨method, -, within⟩ := List.mem_flatMap.mp operations
  cases given : item.get? method with
  | none => simp [given] at within
  | some operation =>
    rw [given] at within
    obtain ⟨⟨slot, body⟩, slots, made⟩ := List.mem_filterMap.mp within
    obtain ⟨⟨media, schema⟩, chosen, same⟩ := Option.map_eq_some_iff.mp made
    cases same
    exact standsIn among (standsAt given (slotStands slots (mediaStands chosen)))

end Body
end OpenApi.Schema
