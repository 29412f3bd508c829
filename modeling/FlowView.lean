import FlowView.Main
import FlowView.Proofs.Cascade
import FlowView.Proofs.Shown
import FlowView.Record.Columns
import FlowView.Proofs.Fates
import FlowView.Proofs.Finished
import FlowView.Proofs.Uses
import FlowView.Proofs.Redelivery
import FlowView.Proofs.Executions
import FlowView.Proofs.Outcomes
import FlowView.Proofs.Grouping
import FlowView.Proofs.Commuting
import FlowView.Proofs.Dates
import FlowView.Proofs.Origins
import FlowView.Proofs.Bindings
import FlowView.Proofs.Refreshing
import FlowView.Proofs.Flows
import FlowView.Proofs.Candidacy
import FlowView.Proofs.Copies
import FlowView.Proofs.Completion
import FlowView.Proofs.Deployments
import FlowView.Proofs.Millis
import FlowView.Proofs.Sorted
import FlowView.Proofs.Fields
import FlowView.Proofs.Preloading
import FlowView.Proofs.Planned
import FlowView.Proofs.Planning
import FlowView.Proofs.Codecs
import FlowView.Proofs.Reading
import FlowView.Proofs.DateForms
import FlowView.Proofs.Listings
