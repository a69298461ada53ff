import RestRoutes.Descriptor
import RestRoutes.Proofs.Api.Builder

/-! What stops the description of a parameter.  An unknown place is refused; besides that, only an integer
of too many digits among the values of the parameter can be in the way. -/

namespace RestRoutes

open Api

namespace Descriptor

theorem valueText_reads (v : Value) : Readable v.Textual (valueText v) := by
  unfold valueText
  split
  · exact .ok fun _ => trivial
  · exact .ok fun _ => trivial
  · exact v.textOrFail_reads

theorem defaultText_reads (v : Value) : Readable v.Textual (defaultText v) := by
  unfold defaultText
  split
  · exact .ok fun _ => trivial
  · exact (valueText_reads v).map fun _ _ => trivial

theorem locationNamed_bounded (p : Prop) (name parameter : String) :
    Bounded p (locationNamed name parameter) := by
  unfold locationNamed
  split
  · exact .ok _
  · split
    · exact .ok _
    · exact .refusal _

theorem formatNamed_reads (p : Prop) (name : Option String) (parameter : String) :
    Readable p (formatNamed name parameter).outcome := by
  unfold formatNamed
  split
  · exact .ok fun _ => trivial
  · split
    · exact .ok fun _ => trivial
    · split
      · exact .ok fun _ => trivial
      · rw [Logged.bind_outcome]
        exact .ok fun _ => trivial

theorem swaggerTyping_reads (p : Swagger.Parameter) :
    Readable p.Textual (swaggerTyping p).outcome := by
  have hEnum : Readable p.Textual (p.enum.mapM valueText) :=
    .mapM fun v hv => (valueText_reads v).mono fun h => h.1 v hv
  have hDefault := (defaultText_reads p.default).mono fun h : p.Textual => h.2
  rw [swaggerTyping, Logged.bind_outcome]
  refine hEnum.bind fun _ _ => ?_
  rw [Logged.bind_outcome]
  refine hDefault.bind fun _ _ => ?_
  rw [Logged.bind_outcome]
  exact (formatNamed_reads _ _ _).bind fun _ _ => .ok fun _ => trivial

theorem openApiTyping_reads (p : OpenApi.Parameter) : Readable p.Textual (openApiTyping p) := by
  unfold openApiTyping
  split
  · exact .ok fun _ => trivial
  · rename_i schema hSchema
    have hText : p.Textual → schema.Textual := fun h => h schema hSchema
    refine (Reads.mapM fun v hv => (valueText_reads v).mono fun h => (hText h).1 v hv).bind
      fun _ _ => ?_
    exact ((defaultText_reads _).mono fun h => (hText h).2).bind fun _ _ => .ok fun _ => trivial

/-! ### Parameters by their places -/

/-- The descriptor of a parameter whose typing is yet to be read. -/
def placed (location name : String) (typing : Logged Typing) (required : Option Bool)
    (description : Option String) : Logged Descriptor := do
  let location ← Logged.ofExcept (locationNamed location name)
  let typing ← if location = some .body then pure .none else typing
  return ofTyping typing name location required description

theorem ofSwagger_eq (p : Swagger.Parameter) :
    ofSwagger p = placed p.location p.name (swaggerTyping p) p.required p.description := rfl

theorem ofOpenApi_eq (p : OpenApi.Parameter) :
    ofOpenApi p =
      placed p.location p.name (Logged.ofExcept (openApiTyping p)) p.required p.description := rfl

section Placed

variable {location name : String} {typing : Logged Typing} {required : Option Bool}
  {description : Option String}

theorem placed_of_error {e : Failure} (h : locationNamed location name = .error e) :
    (placed location name typing required description).outcome = .error e := by
  rw [placed, Logged.bind_outcome, Logged.ofExcept_outcome, h]
  rfl

theorem placed_outcome {l : Option Location} (h : locationNamed location name = .ok l) :
    (placed location name typing required description).outcome = do
      let typing ← if l = some .body then pure .none else typing.outcome
      return ofTyping typing name l required description := by
  rw [placed, Logged.bind_outcome, Logged.ofExcept_outcome, h]
  by_cases hBody : l = some .body
  · rw [if_pos hBody]
    change Logged.outcome (ite (l = some .body) _ _) = _
    rw [if_pos hBody]
    rfl
  · rw [if_neg hBody]
    change Logged.outcome (ite (l = some .body) _ _) = _
    rw [if_neg hBody, Logged.bind_outcome]
    rfl

theorem placed_reads {p : Prop} (hTyping : Readable p typing.outcome) {l : Option Location}
    (h : locationNamed location name = .ok l) :
    Readable p (placed location name typing required description).outcome := by
  rw [placed_outcome h]
  split
  · exact .ok fun _ => trivial
  · exact hTyping.bind fun _ _ => .ok fun _ => trivial

theorem placed_bounded {p : Prop} (hTyping : Readable p typing.outcome) :
    Bounded p (placed location name typing required description).outcome := by
  have hPlace := locationNamed_bounded p location name
  cases h : locationNamed location name with
  | ok l => exact (placed_reads hTyping h).bounded
  | error e =>
    rw [h] at hPlace
    rw [placed_of_error h]
    exact fun d hd => hPlace d (congrArg Except.error (Except.error.inj hd))

end Placed

theorem ofSwagger_bounded (p : Swagger.Parameter) : Bounded p.Textual (ofSwagger p).outcome :=
  placed_bounded (swaggerTyping_reads p)

theorem ofOpenApi_bounded (p : OpenApi.Parameter) : Bounded p.Textual (ofOpenApi p).outcome := by
  rw [ofOpenApi_eq]
  exact placed_bounded (openApiTyping_reads p)

theorem ofOperation_bounded (op : Operation) :
    ∀ d ∈ ofOperation op, Bounded op.Textual d.outcome := by
  intro d hd
  cases op with
  | swagger op =>
    obtain ⟨p, hp, rfl⟩ := List.mem_map.mp hd
    exact fun e he => (ofSwagger_bounded p e he).imp id fun hNot h => hNot (h p hp)
  | openApi op =>
    obtain ⟨p, hp, rfl⟩ := List.mem_map.mp hd
    exact fun e he => (ofOpenApi_bounded p e he).imp id fun hNot h => hNot (h p hp)

end Descriptor

end RestRoutes
