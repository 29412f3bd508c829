import FlowView.Projection.Basic
/-!
# Deployments

Process definitions, their models, and applications. Deploying again keeps what the new payload leaves
out.
-/

namespace FlowView.Projection

/-- The definition after a deployment, given what was there. -/
def deploy (e : Event) (p : DefinitionPayload) (old : Option ProcessDefinition) : ProcessDefinition :=
  let old := old.getD { id := p.id }
  { id := old.id
    key := p.key.or old.key
    name := p.name.or old.name
    description := p.description.or old.description
    version := p.version.or old.version
    formKey := p.formKey.or old.formKey
    category := p.category.or old.category
    service := { e.service with appVersion := p.appVersion.or e.service.appVersion } }

def definitionDeployed (e : Event) : Program Unit := do
  let p : DefinitionPayload ← payload e
  let old ← Program.ask (.findDefinition p.id)
  Program.ask (.saveDefinition (deploy e p old))
  match p.modelContent with
  | some content => Program.ask (.saveModel { definitionId := (deploy e p old).id, content })
  | none => return ()

/-- The application after a deployment. The envelope's name and version count only where nothing better
is known. -/
def deployApplication (e : Event) (p : ApplicationPayload) (old : Option Application) : Application where
  id := p.id
  name := (p.name.or (old.bind Application.name)).or e.service.appName
  version := (p.version.or (old.bind Application.version)).or e.service.appVersion

def applicationDeployed (e : Event) : Program Unit := do
  let p : ApplicationPayload ← payload e
  let old ← Program.ask (.findApplication p.id)
  Program.ask (.saveApplication (deployApplication e p old))

end FlowView.Projection
