import Playhouse.Main
import Playhouse.Proofs.Character.Templates
import Playhouse.Proofs.Character.Tidying
import Playhouse.Proofs.Character.Variety
import Playhouse.Proofs.Feedback.Counting
import Playhouse.Proofs.Gateway.Limit
import Playhouse.Proofs.Gateway.Log
import Playhouse.Proofs.Gateway.Retrying
import Playhouse.Proofs.Hunt.Clues
import Playhouse.Proofs.Manual.Extraction
import Playhouse.Proofs.Manual.Options
import Playhouse.Proofs.Manual.Pieces
import Playhouse.Proofs.Response.Answering
import Playhouse.Proofs.RolePlay.Assistance
import Playhouse.Proofs.RolePlay.Durability
import Playhouse.Proofs.RolePlay.Isolation
import Playhouse.Proofs.RolePlay.Refusal
import Playhouse.Proofs.Scene.Script
import Playhouse.Proofs.Scene.Spacing
import Playhouse.Proofs.Server.Sockets
import Playhouse.Proofs.Session.Confinement
import Playhouse.Proofs.Session.Finality
import Playhouse.Proofs.Session.Permanence
import Playhouse.Proofs.Session.Quota
import Playhouse.Proofs.Session.Sharing
import Playhouse.Proofs.Site.Ownership
import Playhouse.Proofs.Site.Recording
import Playhouse.Proofs.Site.Redirection
import Playhouse.Proofs.Site.Stories
import Playhouse.Proofs.Site.Submissions
import Playhouse.Proofs.Site.Uploads
import Playhouse.Proofs.Trial.Demands
import Playhouse.World.Assets
