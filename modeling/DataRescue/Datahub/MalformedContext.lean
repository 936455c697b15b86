import DataRescue.Datahub.McpSession
import DataRescue.Http.Exceptions

/-!
# Malformed contexts

The checks that the MCP adapter makes of a context and of the responses of a session raise what the
adapter catches only, whatever they are given (`contextOf_raises`, `callTools_contained`).
-/

namespace DataRescue

open Python Concurrency

namespace DataHubMCPAdapter

open Http

variable {printing : Printing} {adapter : DataHubMCPAdapter}

/-! ### Contexts -/

theorem refuse_raises {α : Type} {message : String} :
    Raises catches (refuse message : Except AdapterError α) := raises_error rfl

theorem requireObject_raises {value : Option Json} {message : String} :
    Raises catches (requireObject value message) := by
  unfold requireObject
  split
  · exact raises_ok
  · exact refuse_raises

theorem requireArray_raises {value : Option Json} {message : String} :
    Raises catches (requireArray value message) := by
  unfold requireArray
  split
  · exact raises_ok
  · exact refuse_raises

theorem validatedSchemaFields_raises {assetUrn : String} {payload : Fields} :
    Raises catches (validatedSchemaFields assetUrn payload) := by
  rw [validatedSchemaFields]
  split
  · exact refuse_raises
  refine requireArray_raises.bind fun fields => ?_
  repeat' split
  all_goals first | exact refuse_raises | exact raises_ok

theorem lineageResult_raises (result : Json) : Raises catches (lineageResult result) := by
  rw [lineageResult]
  refine requireObject_raises.bind fun result => requireObject_raises.bind fun entity => ?_
  repeat' split
  all_goals first | exact refuse_raises | exact raises_ok

theorem validatedLineageResults_raises {payload : Fields} :
    Raises catches (validatedLineageResults payload) := by
  rw [validatedLineageResults]
  refine requireObject_raises.bind fun downstreams => requireArray_raises.bind fun results => ?_
  repeat' split
  all_goals first | exact refuse_raises | exact .mapM lineageResult_raises results

theorem edgesCurrent_raises {directLineages : List (String × Fields)} (edges : List (String × String)) :
    Raises catches (edgesCurrent directLineages edges) := by
  induction edges with
  | nil => exact raises_ok
  | cons edge edges ih =>
    obtain ⟨sourceUrn, targetUrn⟩ := edge
    rw [edgesCurrent]
    split
    · exact raises_error rfl
    · refine validatedLineageResults_raises.bind fun results => ?_
      split
      · exact ih
      · exact raises_ok

theorem canonicalTopologyCurrent_raises {directLineages : Option (List (String × Fields))} :
    Raises catches (canonicalTopologyCurrent directLineages) := by
  unfold canonicalTopologyCurrent
  split
  · exact raises_ok
  · dsimp only
    split
    · exact edgesCurrent_raises _
    · exact raises_ok

theorem glossaryTerm_raises (association : Json) : Raises catches (glossaryTerm association) := by
  rw [glossaryTerm]
  refine requireObject_raises.bind fun association => requireObject_raises.bind fun term => ?_
  repeat' split
  all_goals first | exact refuse_raises | exact raises_ok

theorem glossaryContext_raises {entity : Fields} : Raises catches (glossaryContext entity) := by
  unfold glossaryContext
  split
  · exact raises_ok
  · exact raises_ok
  · refine requireObject_raises.bind fun glossary => requireArray_raises.bind fun terms => ?_
    exact (Raises.mapM glossaryTerm_raises terms).bind fun terms => raises_ok

theorem firstOwner_raises (owners : List Json) : Raises catches (firstOwner owners) := by
  induction owners with
  | nil => exact raises_ok
  | cons association rest ih =>
    rw [firstOwner]
    refine requireObject_raises.bind fun association => requireObject_raises.bind fun owner => ?_
    split
    · exact raises_ok
    · exact ih

theorem ownerContext_raises {entity : Fields} : Raises catches (ownerContext entity) := by
  unfold ownerContext
  split
  · exact raises_ok
  · exact raises_ok
  · exact requireObject_raises.bind fun ownership => requireArray_raises.bind firstOwner_raises

theorem documentUrn_raises (document : Json) : Raises catches (documentUrn document) := by
  rw [documentUrn]
  refine requireObject_raises.bind fun document => ?_
  repeat' split
  all_goals first | exact refuse_raises | exact raises_ok

theorem documentContext_raises {entity : Fields} : Raises catches (documentContext entity) := by
  unfold documentContext
  split
  · exact raises_ok
  · exact raises_ok
  · refine requireObject_raises.bind fun related => requireArray_raises.bind fun documents => ?_
    exact (Raises.mapM documentUrn_raises documents).bind fun urns => raises_ok

theorem validateGmsDocumentInfo_raises {info : Fields} {title assetUrn : String}
    {content : Option String} : Raises catches (validateGmsDocumentInfo info title assetUrn content) := by
  rw [validateGmsDocumentInfo]
  split
  · exact refuse_raises
  dsimp only
  have hlinked {linked : List Json → Bool} : Raises catches (requireArray (getField info "relatedAssets")
      "saved document has no relatedAssets array" >>= fun relatedAssets =>
        if linked relatedAssets then pure ()
        else refuse "saved document is not linked to the requested DataHub asset") := by
    refine requireArray_raises.bind fun relatedAssets => ?_
    split
    · exact raises_ok
    · exact refuse_raises
  repeat' split
  all_goals first | exact hlinked | exact refuse_raises.bind fun _ => hlinked

theorem canonicalContext_raises {assetUrn : String} {entity : Fields} {documentUrns : List String}
    {canonicalDocumentInfo : Option Fields} :
    Raises catches (canonicalContext assetUrn entity documentUrns canonicalDocumentInfo) := by
  unfold canonicalContext
  dsimp only
  split
  · refine validateGmsDocumentInfo_raises.bind fun _ => raises_ok.bind fun documentUrns => ?_
    repeat' split
    all_goals first | exact refuse_raises | exact raises_ok
  · refine raises_ok.bind fun documentUrns => ?_
    repeat' split
    all_goals first | exact refuse_raises | exact raises_ok

theorem normalizeContext_raises {assetUrn : String} {entity schema lineage : Fields}
    {directLineages : Option (List (String × Fields))} {canonicalDocumentInfo : Option Fields} :
    Raises catches (normalizeContext assetUrn entity schema lineage directLineages
      canonicalDocumentInfo) := by
  rw [normalizeContext]
  split
  · exact refuse_raises
  split
  · exact refuse_raises
  refine validatedSchemaFields_raises.bind fun schemaFields => ?_
  refine (validatedLineageResults_raises.bind fun results => raises_ok).bind fun lineageUrns => ?_
  refine glossaryContext_raises.bind fun (glossaryDefinition, glossaryUrns) => ?_
  refine ownerContext_raises.bind fun owner => documentContext_raises.bind fun documentUrns => ?_
  split
  · refine canonicalContext_raises.bind fun (definition, documentUrns) => ?_
    exact canonicalTopologyCurrent_raises.bind fun topologyCurrent => raises_ok
  · exact raises_ok

theorem contextOf_raises {assetUrn : String} {answers : List Fields}
    {canonicalDocumentInfo : Option Fields} :
    Raises catches (contextOf assetUrn answers canonicalDocumentInfo) := by
  unfold contextOf
  split
  · exact normalizeContext_raises
  · exact raises_error rfl

/-! ### Responses -/

theorem validatedRpcResponse_raises {body : Fields} {requestId : Nat} :
    Raises catches (validatedRpcResponse printing body requestId) := by
  rw [validatedRpcResponse]
  repeat' split
  all_goals first | exact refuse_raises | exact raises_ok

theorem eventBody_raises {requestId : Nat} (events : List String) :
    Raises catches (eventBody printing requestId events) := by
  induction events with
  | nil => exact refuse_raises
  | cons event events ih =>
    rw [eventBody]
    refine (decode_raises fun _ => rfl).bind fun parsed => ?_
    split
    · split
      · exact validatedRpcResponse_raises
      · exact ih
    · exact ih

theorem rpcBody_raises {response : HttpResponse} {requestId : Nat} :
    Raises catches (rpcBody printing response requestId) := by
  rw [rpcBody]
  split
  · exact eventBody_raises _
  · refine (decode_raises fun _ => rfl).bind fun body => ?_
    exact requireObject_raises.bind fun body => validatedRpcResponse_raises

theorem toolReply_raises {url : String} {callId : Nat} {response : HttpResponse} :
    Raises catches (toolReply printing url callId response) := by
  refine (raiseForStatus_raises fun _ => rfl).bind fun _ => rpcBody_raises.bind fun body => ?_
  unfold toolResult
  repeat' split
  all_goals first | exact refuse_raises | exact raises_ok

theorem initialized_raises {url : String} {response : HttpResponse} :
    Raises catches (initialized printing url response) := by
  have hresult : ∀ result, Raises catches (validatedInitializeResult printing result) := by
    intro result
    rw [validatedInitializeResult]
    refine requireObject_raises.bind fun result => ?_
    split
    · exact refuse_raises
    refine requireObject_raises.bind fun _ => requireObject_raises.bind fun serverInfo => ?_
    repeat' split
    all_goals first | exact refuse_raises | exact raises_ok
  rw [initialized]
  refine (raiseForStatus_raises fun _ => rfl).bind fun _ => rpcBody_raises.bind fun body => ?_
  split
  · split
    · exact refuse_raises.bind fun _ => hresult _
    · exact hresult _
  · exact hresult _

theorem requestTools_contained {url : String} {headers : List (String × String)} {callId : Nat}
    {tools : List ToolCall} :
    Contained catches (requestTools printing url headers callId tools) := by
  induction tools generalizing callId with
  | nil => exact contained_done
  | cons tool tools ih =>
    refine (contained_perform fun _ => rfl).bind fun response => ?_
    exact (contained_lift toolReply_raises).bind fun result => ih.bind fun results => contained_done

theorem callTools_contained {tools : List ToolCall} :
    Contained catches (adapter.callTools printing tools) := by
  rw [callTools]
  split
  · exact contained_lift (raises_error rfl)
  · split
    · exact contained_done
    · refine (contained_perform fun _ => rfl).bind fun response => ?_
      refine (contained_lift initialized_raises).bind fun protocol => ?_
      refine (contained_perform fun _ => rfl).bind fun notification => ?_
      refine (contained_lift (raiseForStatus_raises fun _ => rfl)).bind fun _ => ?_
      exact requestTools_contained

theorem readGmsDocumentInfo_contained {documentUrn title assetUrn : String} {content : Option String} :
    Contained catches (adapter.readGmsDocumentInfo printing documentUrn title assetUrn content) := by
  rw [readGmsDocumentInfo]
  split
  · exact contained_lift (raises_error rfl)
  · split
    · exact contained_lift (raises_error rfl)
    · refine Contained.retry ?_ (fun _ => rfl) _ _
      refine (contained_perform fun _ => rfl).bind fun response => contained_lift ?_
      refine (jsonBody_raises (fun _ => rfl) fun _ => rfl).bind fun body => ?_
      refine (requireObject_raises.bind fun body => requireObject_raises).bind fun info => ?_
      exact validateGmsDocumentInfo_raises.bind fun _ => raises_ok

/-- The request that opens a session. -/
def isOpening : HttpOp → Bool
  | .post _ _ json => json = initializeRequest
  | _ => false

theorem readGmsDocumentInfo_uses {documentUrn title assetUrn : String} {content : Option String} :
    (adapter.readGmsDocumentInfo printing documentUrn title assetUrn content).Uses fun op =>
      isOpening op = false := by
  rw [readGmsDocumentInfo]
  split
  · exact .done _
  · split
    · exact .done _
    · refine retry_uses (?_ : Program.Uses (fun op => isOpening op = false) _) rfl _ _
      exact Program.Uses.bind (.call rfl fun _ => .done _) fun _ => .done _

theorem validateDocumentReadback_raises {contentSearch assetEntity : Fields}
    {documentUrn title content assetUrn : String} :
    Raises catches
      (validateDocumentReadback contentSearch assetEntity documentUrn title content assetUrn) := by
  unfold validateDocumentReadback
  repeat' split
  all_goals first
    | exact refuse_raises
    | refine documentContext_raises.bind fun linked => ?_
      split
      · exact refuse_raises
      · exact raises_ok

theorem validatedDocumentResult_raises {payload : Fields} :
    Raises catches (validatedDocumentResult payload) := by
  unfold validatedDocumentResult
  repeat' split
  all_goals first | exact refuse_raises | exact raises_ok

end DataHubMCPAdapter

end DataRescue
