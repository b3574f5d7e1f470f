/-!
# Codes of descriptor errors and events

Stable identifiers that stand in error reports and in log records.
-/

set_option autoImplicit false

namespace PluginDescriptor

/-- What a descriptor error or event is about. -/
inductive Code where
  | descriptorNotFound
  | descriptorFound
  | descriptorLoaded
  | invalidPluginIdentifier
  | invalidDescriptorSyntax
  | invalidDescriptorStructure
  | missingMetadata
  | missingMetadataKey
  | invalidMetadataValue
  | metadataAlreadySet
  | noActiveEntity
  | missingEntityProperty
  | invalidEntityProperty
  | missingInputProperty
  | invalidInputProperty
  | missingOutputProperty
  | unsupportedRequirement
  | invalidRequirementValue
  | versionTooOld
  | requirementsSkippedInDevelopment
  | unknownEntity
  | missingRequiredInput
  | inputValidationFailed
  | validatorsNotLoaded
  | validatorNotFound
  | invalidValidationPattern
  | helpTemplateNotFound
  | invalidHelpTemplate
  deriving Repr, DecidableEq, Inhabited

namespace Code

/-- Every code with its text. -/
def texts : List (Code × String) := [
  (descriptorNotFound, "DESCRIPTOR_NOT_FOUND"),
  (descriptorFound, "DESCRIPTOR_FOUND"),
  (descriptorLoaded, "DESCRIPTOR_LOADED"),
  (invalidPluginIdentifier, "INVALID_PLUGIN_IDENTIFIER"),
  (invalidDescriptorSyntax, "INVALID_DESCRIPTOR_SYNTAX"),
  (invalidDescriptorStructure, "INVALID_DESCRIPTOR_STRUCTURE"),
  (missingMetadata, "MISSING_METADATA"),
  (missingMetadataKey, "MISSING_METADATA_KEY"),
  (invalidMetadataValue, "INVALID_METADATA_VALUE"),
  (metadataAlreadySet, "METADATA_ALREADY_SET"),
  (noActiveEntity, "NO_ACTIVE_ENTITY"),
  (missingEntityProperty, "MISSING_ENTITY_PROPERTY"),
  (invalidEntityProperty, "INVALID_ENTITY_PROPERTY"),
  (missingInputProperty, "MISSING_INPUT_PROPERTY"),
  (invalidInputProperty, "INVALID_INPUT_PROPERTY"),
  (missingOutputProperty, "MISSING_OUTPUT_PROPERTY"),
  (unsupportedRequirement, "UNSUPPORTED_REQUIREMENT"),
  (invalidRequirementValue, "INVALID_REQUIREMENT_VALUE"),
  (versionTooOld, "VERSION_TOO_OLD"),
  (requirementsSkippedInDevelopment, "REQUIREMENTS_SKIPPED_IN_DEVELOPMENT"),
  (unknownEntity, "UNKNOWN_ENTITY"),
  (missingRequiredInput, "MISSING_REQUIRED_INPUT"),
  (inputValidationFailed, "INPUT_VALIDATION_FAILED"),
  (validatorsNotLoaded, "VALIDATORS_NOT_LOADED"),
  (validatorNotFound, "VALIDATOR_NOT_FOUND"),
  (invalidValidationPattern, "INVALID_VALIDATION_PATTERN"),
  (helpTemplateNotFound, "HELP_TEMPLATE_NOT_FOUND"),
  (invalidHelpTemplate, "INVALID_HELP_TEMPLATE")]

/-- The text of a code. -/
def text (c : Code) : String := ((texts.find? (·.1 = c)).map (·.2)).getD ""

/-- The code with a text. -/
def ofText? (s : String) : Option Code := (texts.find? (·.2 == s)).map (·.1)

theorem ofText?_text (c : Code) : ofText? c.text = some c := by cases c <;> decide

end Code

end PluginDescriptor
